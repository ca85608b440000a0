import Registrar.Directory
import Registrar.Numeric.Binary64

/-
  This file defines decoded JSON documents.  The members of an
  object are a directory: ascending names, one member a name.

  A number of a document is a whole number if it was written
  without fraction and exponent and fits 64 bits, and a binary
  value otherwise.

  Key definitions include:
    * `Json`
    * `Json.typeName`
    * `Json.number?`
    * `Json.text?`
    * `Json.list?`
    * `Json.object?`
    * `Json.single`
    * `Json.ofBinary64`
    * `Json.nesting`
    * `Json.Decoded`
-/

------------------------------------------------------------
-- Documents
------------------------------------------------------------

namespace Registrar

/- A decoded JSON document. -/
inductive Json where
| null
| boolean (b : Bool)
| integer (n : Int)
| float (x : Binary64)
| text (s : String)
| list (items : List Json)
| object (members : List (String × Json))

namespace Json

instance : Inhabited Json :=
  ⟨.null⟩

/- The name of a document's type. -/
def typeName : Json → String
| .null => "null"
| .boolean _ => "boolean"
| .integer _ => "number"
| .float _ => "number"
| .text _ => "string"
| .list _ => "array"
| .object _ => "object"

/- The binary value of a number. -/
def number? : Json → Option Binary64
| .integer n => some (Binary64.ofInt n)
| .float x => some x
| _ => none

/- The characters of a string. -/
def text? : Json → Option String
| .text s => some s
| _ => none

/- The items of an array. -/
def list? : Json → Option (List Json)
| .list items => some items
| _ => none

/- The members of an object. -/
def object? : Json → Option (Directory Json)
| .object members => some members
| _ => none

/- An object with one member. -/
def single
    (name : String)
    (value : Json) : Json :=
  .object [(name, value)]

/- An array of strings. -/
def ofTexts (texts : List String) : Json :=
  .list (texts.map .text)

/- A finite value is a number; any other is null. -/
def ofBinary64 (x : Binary64) : Json :=
  if x.IsFinite then .float x else .null

------------------------------------------------------------
-- Nesting
------------------------------------------------------------

mutual

/- How many arrays and objects are open at once. -/
def nesting : Json → Nat
| .list items => nestingOfItems items + 1
| .object members => nestingOfMembers members + 1
| _ => 0

/- The deepest nesting of some items. -/
def nestingOfItems : List Json → Nat
| [] => 0
| item :: rest =>
    max item.nesting (nestingOfItems rest)

/- The deepest nesting of some members. -/
def nestingOfMembers : List (String × Json) → Nat
| [] => 0
| (_, value) :: rest =>
    max value.nesting (nestingOfMembers rest)

end

------------------------------------------------------------
-- What Decoding Yields
------------------------------------------------------------

/- A whole number that fits 64 bits, with or without sign. -/
def FitsWord (n : Int) : Prop :=
  -(twoTo 63 : Int) ≤ n ∧ n < twoTo 64

instance (n : Int) : Decidable (FitsWord n) := by
  unfold FitsWord
  infer_instance

mutual

/-
  A document that text can be decoded to: whole numbers fit 64
  bits, other numbers are finite, and the names of an object
  ascend.
-/
def Decoded : Json → Prop
| .integer n => FitsWord n
| .float x => x.IsFinite
| .list items => DecodedItems items
| .object members =>
    Directory.Ascending members ∧ DecodedMembers members
| _ => True

/- Every item is a decoded document. -/
def DecodedItems : List Json → Prop
| [] => True
| item :: rest => item.Decoded ∧ DecodedItems rest

/- Every member holds a decoded document. -/
def DecodedMembers : List (String × Json) → Prop
| [] => True
| (_, value) :: rest =>
    value.Decoded ∧ DecodedMembers rest

end

end Json

end Registrar
