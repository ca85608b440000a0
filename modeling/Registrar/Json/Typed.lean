import Registrar.Json.Document

/-
  This file reads values whose type is known beforehand.  A
  value of another type is refused as soon as it is met: a
  scalar when it has been read, an array or an object when it
  opens.

  Key definitions include:
    * `Json.findValue`
    * `Json.refuse`
    * `Json.readEntries`
    * `Json.readElements`
    * `Json.readCount`
    * `Json.readVariant`
-/

------------------------------------------------------------
-- Refusing Other Types
------------------------------------------------------------

namespace Registrar

namespace Json

variable {α : Type} (convert : Conversion)

/- What a document is, as far as its type goes. -/
def Found.ofJson : Json → Found
| .null => .null
| .boolean b => .boolean b
| .integer n => .integer n
| .float x => .float x
| .text s => .text s
| .list _ => .list
| .object _ => .object

/- What the value in front of a text is. -/
def findValue
    (input : List Char) : Except ReadError Found :=
  match skipBlanks input with
  | '[' :: _ => .ok .list
  | '{' :: _ => .ok .object
  | rest =>
      match readScalar convert rest with
      | .error e => .error e
      | .ok (value, _) => .ok (Found.ofJson value)

/- The error of a value that is not what is wanted. -/
def refuse
    (wanted : Wanted)
    (input : List Char) : ReadError :=
  match findValue convert input with
  | .error e => e
  | .ok found => .wrongType found wanted

------------------------------------------------------------
-- Objects, Arrays And Counts
------------------------------------------------------------

/- The members of an object, with values of one type. -/
def readEntries
    (wanted : Wanted)
    (rule : NameRule)
    (readValue : Reader α) : Reader (List (String × α)) :=
  fun input =>
    match skipBlanks input with
    | '{' :: rest => readMembers rule readValue rest
    | rest => .error (refuse convert wanted rest)

/- The items of an array, all of one type. -/
def readElements
    (wanted : Wanted)
    (readItem : Reader α) : Reader (List α) := fun input =>
  match skipBlanks input with
  | '[' :: rest => readItems readItem rest
  | rest => .error (refuse convert wanted rest)

/- Nothing but a null. -/
def readNothing : Reader Unit := fun input =>
  match skipBlanks input with
  | 'n' :: rest => readWord ['u', 'l', 'l'] rest
  | rest => .error (refuse convert .nothing rest)

/- A whole number that is not negative. -/
def readCount : Reader Nat := fun input =>
  match readScalar convert input with
  | .ok (.integer n, rest) =>
      if n < 0 then
        .error (.wrongInteger n .rowCount)
      else
        .ok (n.toNat, rest)
  | _ => .error (refuse convert .rowCount input)

------------------------------------------------------------
-- Variants
------------------------------------------------------------

/- The opening quote of the name of a variant. -/
def readNameQuote : Reader Unit := fun input =>
  match skipBlanks input with
  | [] => .error .endInObject
  | '"' :: rest => .ok ((), rest)
  | '}' :: _ => .error .expectedValue
  | _ => .error .nameNotText

/- The end of an object that holds one member. -/
def readOnlyBrace : Reader Unit := fun input =>
  match skipBlanks input with
  | [] => .error .endInObject
  | '}' :: rest => .ok ((), rest)
  | _ => .error .expectedValue

/-
  One of several named variants: a string, or an object whose
  one member has the name and holds null.
-/
def readVariant
    (choose : String → Except ReadError α) : Reader α :=
  fun input =>
    match skipBlanks input with
    | [] => .error .endInValue
    | '"' :: rest => do
        let (name, rest) ← readText rest
        let value ← choose name
        return (value, rest)
    | '{' :: rest => do
        let ((), rest) ← readNameQuote rest
        let (name, rest) ← readText rest
        let value ← choose name
        let ((), rest) ← readColon rest
        let ((), rest) ← readNothing convert rest
        let ((), rest) ← readOnlyBrace rest
        return (value, rest)
    | _ => .error .expectedValue

end Json

end Registrar
