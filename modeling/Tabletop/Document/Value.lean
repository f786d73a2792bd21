/-!
# Documents

The values of a JSON document. The fields of an object stand in order, with repetitions. A part
that is well formed but denotes nothing, such as a number out of range, is kept as `broken`: it does
no harm where nobody reads it.
-/

namespace Tabletop

/-- A number: an integer of at most 64 bits, or a floating point number by its bits. -/
inductive Numeric where
  | int (i : Int)
  | double (bits : UInt64)
  | single (bits : UInt32)
  deriving DecidableEq, Repr

/-- A value of a document. -/
inductive Document where
  | null
  | bool (b : Bool)
  | number (n : Numeric)
  | text (s : String)
  | array (items : List Document)
  | object (fields : List (String × Document))
  | broken
  deriving Repr, Inhabited

namespace Document

/-- An integer. -/
def int (i : Int) : Document := .number (.int i)

/-- A natural number. -/
def nat (n : Nat) : Document := .number (.int n)

/-- A text, or null. -/
def textOrNull : Option String → Document
  | some s => .text s
  | none => .null

/-- The value of the first field with a name. -/
def fieldOf? (fields : List (String × Document)) (key : String) : Option Document :=
  fields.lookup key

end Document

end Tabletop
