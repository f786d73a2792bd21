/-!
# Signals

What a session asks of the world around it while it goes on by itself.
-/

namespace Tabletop

/-- Something the session asks for. -/
inductive Signal where
  /-- Stop speaking. -/
  | hush
  /-- Read a text aloud, in place of what is being spoken. -/
  | speak (text locale : String)
  /-- Paint a scene. -/
  | paint (description : String)
  deriving DecidableEq, Repr

/-- The voice that reads a language. -/
def Signal.locale (language : String) : String := if language = "id" then "id-ID" else "en-US"

end Tabletop
