import Registrar.Json.Numeral
import Registrar.Json.Sequences

/-
  This file reads whole documents.  At most 127 arrays and
  objects may be open at once.

  Key definitions include:
    * `Json.nestingLimit`
    * `Json.readScalar`
    * `Json.readValue`
    * `Json.ofText`
-/

------------------------------------------------------------
-- Documents
------------------------------------------------------------

namespace Registrar

namespace Json

/- The most arrays and objects that may be open at once. -/
def nestingLimit : Nat :=
  127

variable (convert : Conversion)

/- A value that is neither array nor object. -/
def readScalar : Reader Json := fun input =>
  match skipBlanks input with
  | [] => .error .endInValue
  | 'n' :: rest => do
      let ((), rest) ← readWord ['u', 'l', 'l'] rest
      return (.null, rest)
  | 't' :: rest => do
      let ((), rest) ← readWord ['r', 'u', 'e'] rest
      return (.boolean true, rest)
  | 'f' :: rest => do
      let ((), rest) ← readWord ['a', 'l', 's', 'e'] rest
      return (.boolean false, rest)
  | '"' :: rest => do
      let (s, rest) ← readText rest
      return (.text s, rest)
  | c :: rest =>
      if c = '-' ∨ c.isDigit then
        readNumber convert (c :: rest)
      else
        .error .expectedValue

/- A value, given how to read what an opening starts. -/
def readValueWith
    (readArray : Reader (List Json))
    (readObject : Reader (List (String × Json))) :
    Reader Json := fun input =>
  match skipBlanks input with
  | '[' :: rest => do
      let (items, rest) ← readArray rest
      return (.list items, rest)
  | '{' :: rest => do
      let (members, rest) ← readObject rest
      return (.object (Directory.ofEntries members), rest)
  | rest => readScalar convert rest

/- Nothing may be opened any more. -/
def refuseOpening {α : Type} : Reader α :=
  fun _ => .error .nestedTooDeep

/- A value in which so many openings may stand at once. -/
def readValue : Nat → Reader Json
| 0 => readValueWith convert refuseOpening refuseOpening
| depth + 1 =>
    readValueWith convert
      (readItems (readValue depth))
      (readMembers anyName (readValue depth))

/- The document that a text holds. -/
def ofText (input : String) : Except ReadError Json :=
  readWhole (readValue convert nestingLimit) input

end Json

end Registrar
