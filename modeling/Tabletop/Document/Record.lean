import Tabletop.Document.Value

/-!
# Reading records

Readers from documents to the values of the game. A record is an object, or an array of its fields
in the order in which they are declared, where fields at the end may be missing. Names that are not
declared do not matter; a declared name may not be repeated.
-/

namespace Tabletop.Document

/-- The fields of a record by name. -/
structure Record where
  get? : String → Option Document

/-- How often a name stands among fields. -/
def occurrences (key : String) (fields : List (String × Document)) : Nat :=
  fields.countP fun f => f.1 == key

/-- An object as a record. -/
def keyed? (keys : List String) : Document → Option Record
  | .object fields =>
    if keys.all fun key => occurrences key fields ≤ 1 then some ⟨fieldOf? fields⟩ else none
  | _ => none

/-- An object, or an array of declared fields in order, as a record. -/
def record? (keys : List String) : Document → Option Record
  | .array items =>
    if items.length ≤ keys.length then some ⟨fun key => items[keys.idxOf key]?⟩ else none
  | d => keyed? keys d

/-- The record is written as an object. -/
def isObject : Document → Bool
  | .object _ => true
  | _ => false

/-! ## Values -/

/-- A text. -/
def text? : Document → Option String
  | .text s => some s
  | _ => none

/-- An integer within bounds, the upper one excluded. -/
def intWithin? (low high : Int) : Document → Option Int
  | .number (.int i) => if low ≤ i ∧ i < high then some i else none
  | _ => none

/-- A count below a bound. -/
def natBelow? (bound : Nat) (d : Document) : Option Nat :=
  (intWithin? 0 bound d).map Int.toNat

/-- A count of eight bits. -/
def byte? (d : Document) : Option UInt8 := (natBelow? UInt8.size d).map UInt8.ofNat

/-- A count of 32 bits. -/
def word? (d : Document) : Option UInt32 := (natBelow? UInt32.size d).map UInt32.ofNat

/-- A signed number of 32 bits. -/
def int32? (d : Document) : Option Int32 := (intWithin? (-2147483648) 2147483648 d).map Int32.ofInt

/-- A count of 64 bits. -/
def count? (d : Document) : Option Nat := natBelow? UInt64.size d

/-- A list of values. -/
def listOf? {α : Type} (f : Document → Option α) : Document → Option (List α)
  | .array items => items.mapM f
  | _ => none

/-- A value or null. -/
def orNull? {α : Type} (f : Document → Option α) : Document → Option (Option α)
  | .null => some none
  | d => (f d).map some

/-- A name from a list: a text, or an object whose only field has that name and is null. -/
def named? {α : Type} (names : List (String × α)) : Document → Option α
  | .text s => names.lookup s
  | .object [(s, .null)] => names.lookup s
  | _ => none

namespace Record

/-- A field that has to be there. -/
def required? {α : Type} (r : Record) (key : String) (f : Document → Option α) : Option α :=
  (r.get? key).bind f

/-- A field that has a value of its own when it is missing. -/
def withDefault? {α : Type} (r : Record) (key : String) (fallback : α)
    (f : Document → Option α) : Option α :=
  match r.get? key with
  | none => some fallback
  | some d => f d

end Record

end Tabletop.Document
