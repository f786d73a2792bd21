import Tabletop.Document.Writer

/-!
# The wire

Requests to services by POST with a JSON document as body, and what may come back.
-/

namespace Tabletop

/-- A request. -/
structure Post where
  path : String
  headers : List (String × String)
  body : Document
  deriving Repr

/-- What comes back. -/
inductive Response where
  | answered (status : Nat) (body : String)
  /-- The connection broke. -/
  | dropped (reason : String)
  /-- Nothing came in time. -/
  | overdue
  deriving DecidableEq, Repr

namespace Post

/-- The first line. -/
def line (p : Post) : String := "POST " ++ p.path ++ " HTTP/1.1"

/-- A request whose body is a document. -/
def json (path : String) (headers : List (String × String)) (body : Document) : Post :=
  ⟨path, headers ++ [("content-type", "application/json")], body⟩

/-- A character may stand in the value of a header: a tab, or anything but a control. -/
def isHeaderChar (c : Char) : Bool := c == '\t' || (0x20 ≤ c.toNat && c.toNat != 0x7F)

/-- A text may be the value of a header. -/
def isHeaderText (s : String) : Bool := s.toList.all isHeaderChar

end Post

/-- The status says that all went well. -/
def Response.isSuccess (status : Nat) : Bool := 200 ≤ status && status < 300

end Tabletop
