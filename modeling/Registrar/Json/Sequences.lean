import Registrar.Json.QuotedText

/-
  This file reads the insides of arrays and objects: parts with
  commas between them, up to the closing bracket or brace.

  What is read for an item or a value is left open, so that the
  same rules serve documents and typed values.  The members of
  an object may be refused by their names as soon as a name is
  met.

  Every part takes at least a comma off the text, so the length
  of the text bounds the number of parts.

  Key definitions include:
    * `Json.readItems`
    * `Json.readMembers`
-/

------------------------------------------------------------
-- Arrays
------------------------------------------------------------

namespace Registrar

namespace Json

variable {α : Type}

/-
  The items after the first and the closing bracket.  A comma
  must be followed by an item.
-/
def readMoreItems
    (readItem : Reader α) : Nat → Reader (List α)
| 0, _ => .error .endInList
| limit + 1, input =>
    match skipBlanks input with
    | [] => .error .endInList
    | ']' :: rest => .ok ([], rest)
    | ',' :: rest =>
        match skipBlanks rest with
        | [] => .error .endInValue
        | ']' :: _ => .error .trailingComma
        | next => do
            let (item, rest) ← readItem next
            let (items, rest) ←
              readMoreItems readItem limit rest
            return (item :: items, rest)
    | _ => .error .expectedCommaOrBracket

/- The rest of an array, after its opening bracket. -/
def readItems (readItem : Reader α) : Reader (List α) :=
  fun input =>
    match skipBlanks input with
    | [] => .error .endInList
    | ']' :: rest => .ok ([], rest)
    | next => do
        let (item, rest) ← readItem next
        let (items, rest) ←
          readMoreItems readItem (rest.length + 1) rest
        return (item :: items, rest)

------------------------------------------------------------
-- Objects
------------------------------------------------------------

/- A rule that may refuse a name after the names before it. -/
abbrev NameRule : Type :=
  List String → String → Option ReadError

/- Every name may stand anywhere. -/
def anyName : NameRule := fun _ _ => none

/- The colon between a name and its value. -/
def readColon : Reader Unit := fun input =>
  match skipBlanks input with
  | [] => .error .endInObject
  | ':' :: rest => .ok ((), rest)
  | _ => .error .expectedColon

/- A member, after the opening quote of its name. -/
def readMember
    (rule : NameRule)
    (readValue : Reader α)
    (before : List String) : Reader (String × α) :=
  fun input => do
    let (name, rest) ← readText input
    match rule before name with
    | some e => .error e
    | none => do
        let ((), rest) ← readColon rest
        let (value, rest) ← readValue rest
        return ((name, value), rest)

/-
  The members after the first and the closing brace.  A comma
  must be followed by a member.
-/
def readMoreMembers
    (rule : NameRule)
    (readValue : Reader α) :
    Nat → List String → Reader (List (String × α))
| 0, _, _ => .error .endInObject
| limit + 1, before, input =>
    match skipBlanks input with
    | [] => .error .endInObject
    | '}' :: rest => .ok ([], rest)
    | ',' :: rest =>
        match skipBlanks rest with
        | [] => .error .endInValue
        | '}' :: _ => .error .trailingComma
        | '"' :: next => do
            let (member, rest) ←
              readMember rule readValue before next
            let (members, rest) ←
              readMoreMembers rule readValue limit
                (member.1 :: before) rest
            return (member :: members, rest)
        | _ => .error .nameNotText
    | _ => .error .expectedCommaOrBrace

/- The rest of an object, after its opening brace. -/
def readMembers
    (rule : NameRule)
    (readValue : Reader α) : Reader (List (String × α)) :=
  fun input =>
    match skipBlanks input with
    | [] => .error .endInObject
    | '}' :: rest => .ok ([], rest)
    | '"' :: next => do
        let (member, rest) ←
          readMember rule readValue [] next
        let (members, rest) ←
          readMoreMembers rule readValue (rest.length + 1)
            [member.1] rest
        return (member :: members, rest)
    | _ => .error .nameNotText

end Json

end Registrar
