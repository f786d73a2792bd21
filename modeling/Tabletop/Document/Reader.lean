import Tabletop.Document.Token

/-!
# Reading documents

Tokens are put together by a machine with a stack of unfinished arrays and objects. Reading settles
nothing yet: what is broken stays so, and repeated fields all stand. `settle` does the rest for a
document that is taken as a whole: no part may be broken, nesting is bounded, and of repeated
fields the last counts.
-/

namespace Tabletop.Document

/-- An unfinished array or object; its parts stand latest first. -/
inductive Frame where
  | items (done : List Document)
  | fields (done : List (Option String × Document)) (key : Option String)

/-- What the machine waits for. -/
inductive Reading where
  /-- A value. -/
  | value (stack : List Frame)
  /-- The first value of an array, or its end. -/
  | firstItem (stack : List Frame)
  /-- The name of a field; the end of the object too where it is the first. -/
  | key (done : List (Option String × Document)) (first : Bool) (stack : List Frame)
  /-- The colon after a name. -/
  | colon (done : List (Option String × Document)) (key : Option String) (stack : List Frame)
  /-- A comma or the end of an array. -/
  | afterItem (done : List Document) (stack : List Frame)
  /-- A comma or the end of an object. -/
  | afterField (done : List (Option String × Document)) (stack : List Frame)
  /-- Nothing more. -/
  | finished (d : Document)

/-- A value handed to the innermost unfinished part. -/
def deliver (d : Document) : List Frame → Reading
  | [] => .finished d
  | .items done :: stack => .afterItem (d :: done) stack
  | .fields done key :: stack => .afterField ((key, d) :: done) stack

/-- The object of fields that stand latest first; broken if some name is. -/
def objectOf (done : List (Option String × Document)) : Document :=
  match done.reverse.mapM fun f => f.1.map fun key => (key, f.2) with
  | some fields => .object fields
  | none => .broken

/-- A token where a value is due. -/
def startValue (stack : List Frame) : Token → Option Reading
  | .mark .openObject => some (.key [] true stack)
  | .mark .openArray => some (.firstItem stack)
  | .mark _ => none
  | .text (some s) => some (deliver (.text s) stack)
  | .text none => some (deliver .broken stack)
  | .number (some n) => some (deliver (.number n) stack)
  | .number none => some (deliver .broken stack)
  | .literal d => some (deliver d stack)

/-- One step of the machine. -/
def readStep : Reading → Token → Option Reading
  | .value stack, t => startValue stack t
  | .firstItem stack, .mark .closeArray => some (deliver (.array []) stack)
  | .firstItem stack, t => startValue (.items [] :: stack) t
  | .key done _ stack, .text key => some (.colon done key stack)
  | .key done first stack, .mark .closeObject =>
    if first then some (deliver (objectOf done) stack) else none
  | .colon done key stack, .mark .colon => some (.value (.fields done key :: stack))
  | .afterItem done stack, .mark .comma => some (.value (.items done :: stack))
  | .afterItem done stack, .mark .closeArray => some (deliver (.array done.reverse) stack)
  | .afterField done stack, .mark .comma => some (.key done false stack)
  | .afterField done stack, .mark .closeObject => some (deliver (objectOf done) stack)
  | _, _ => none

/-- The document that a text writes. -/
def parse? (s : String) : Option Document := do
  let tokens ← lex? s.toList
  match ← tokens.foldlM readStep (.value []) with
  | .finished d => some d
  | _ => none

/-! ## Documents taken as a whole -/

/-- How deep arrays and objects may be nested. -/
def maxDepth : Nat := 127

/-- A field put in its place by name; it replaces one of the same name. -/
def insertField (key : String) (d : Document) :
    List (String × Document) → List (String × Document)
  | [] => [(key, d)]
  | (k, e) :: fields =>
    if key < k then (key, d) :: (k, e) :: fields
    else if key = k then (key, d) :: fields
    else (k, e) :: insertField key d fields

mutual

/-- The document without repetitions, the fields sorted by name; nothing if a part is broken or
nested too deep. -/
def settle? (depth : Nat) : Document → Option Document
  | .array items =>
    if depth = 0 then none else (settleItems? (depth - 1) items).map .array
  | .object fields =>
    if depth = 0 then none else (settleFields? (depth - 1) [] fields).map .object
  | .broken => none
  | d => some d

/-- The items settled. -/
def settleItems? (depth : Nat) : List Document → Option (List Document)
  | [] => some []
  | d :: ds => do return (← settle? depth d) :: (← settleItems? depth ds)

/-- The fields settled and put in their places among those before them. -/
def settleFields? (depth : Nat) (done : List (String × Document)) :
    List (String × Document) → Option (List (String × Document))
  | [] => some done
  | (key, d) :: fields => do
    settleFields? depth (insertField key (← settle? depth d) done) fields

end

/-- The document of a text that is taken as a whole. -/
def parseWhole? (s : String) : Option Document := do settle? maxDepth (← parse? s)

end Tabletop.Document
