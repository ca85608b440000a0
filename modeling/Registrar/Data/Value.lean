import Registrar.Arrangement
import Registrar.Data.Field

/-
  This file defines the values of records: numbers and texts.
  How texts are ordered is a parameter.

  Key definitions include:
    * `Value`
    * `Value.domain`
    * `Identity`
    * `Value.identity`
    * `TextOrder`
    * `Value.compareBy`
    * `Value.ofJson?`
    * `Value.toJson`
    * `Value.ofText`
-/

------------------------------------------------------------
-- Values
------------------------------------------------------------

namespace Registrar

/- A value of a record. -/
inductive Value where
| number (x : Binary64)
| text (s : String)
deriving DecidableEq

/- What values are told apart by: a number by its bits. -/
inductive Identity where
| number (bits : Nat)
| text (s : String)
deriving DecidableEq, Repr

/- A way to order texts. -/
abbrev TextOrder : Type :=
  String → String → Ordering

namespace Value

instance : Inhabited Value :=
  ⟨.number Binary64.zero⟩

/- The number, if it is one. -/
def number? : Value → Option Binary64
| .number x => some x
| .text _ => none

/- The text, if it is one. -/
def text? : Value → Option String
| .number _ => none
| .text s => some s

/- The domain that a value belongs to. -/
def domain : Value → Domain
| .number _ => .numeric
| .text _ => .textual

/- The text that shows a value. -/
def plainText : Value → String
| .number x => x.plainText
| .text s => s

/-
  The identity of a value.  The two zeros are one number, and
  share the bits of the one without a sign.
-/
def identity : Value → Identity
| .number x =>
    if x.isSame Binary64.zero then
      .number 0
    else
      .number x.bits
| .text s => .text s

/-
  The order of two values.  Numbers go by size and texts as
  `collate` says; where there is no order they count as equal.
-/
def compareBy (collate : TextOrder) : Value → Value → Ordering
| .number x, .number y => (x.compare? y).getD .eq
| .text s, .text t => collate s t
| _, _ => .eq

------------------------------------------------------------
-- Values In Documents
------------------------------------------------------------

/- The value that a document holds, if it holds one. -/
def ofJson? : Json → Option Value
| .integer n => some (.number (Binary64.ofInt n))
| .float x => some (.number x)
| .text s => some (.text s)
| _ => none

/- The document of a value. -/
def toJson : Value → Json
| .number x => Json.ofBinary64 x
| .text s => .text s

/- A value, and nothing else. -/
def read
    (convert : Json.Conversion) : Json.Reader Value := fun input => do
  let (document, rest) ←
    Json.readValue convert Json.nestingLimit input
  match ofJson? document with
  | some value => return (value, rest)
  | none => .error .notPrimitive

/- The value that a JSON text holds. -/
def ofText
    (convert : Json.Conversion)
    (input : String) : Except Json.ReadError Value :=
  Json.readWhole (read convert) input

end Value

end Registrar
