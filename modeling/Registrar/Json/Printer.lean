import Registrar.Json.Basic
import Registrar.Numeric.Digits

/-
  This file writes JSON documents as compact text: no blanks,
  members in their order, and only the characters escaped that
  JSON demands.

  A binary value is written with its shortest digits, always
  with a fraction or an exponent, so that it never reads back
  as a whole number.

  Key definitions include:
    * `Binary64.wireText`
    * `Json.quotedCharacters`
    * `Json.characters`
    * `Json.render`
-/

------------------------------------------------------------
-- Numbers
------------------------------------------------------------

namespace Registrar

namespace Digits

/- The exponent of the leading digit. -/
def lead (d : Digits) : Int :=
  d.exponent + d.characters.length - 1

/- The digits with a point after the first of several. -/
def pointed (d : Digits) : List Char :=
  match d.characters with
  | [] => []
  | [c] => [c]
  | c :: rest => c :: '.' :: rest

/-
  The digits with an exponent, whose sign is always written.
-/
def withExponent (d : Digits) : List Char :=
  d.pointed ++
    'e' :: (if 0 ≤ d.lead then '+' else '-') ::
      Nat.toDigits 10 d.lead.natAbs

/-
  From 10^-5 up to below 10^16 a number is written without an
  exponent, and a whole number ends in a zero decimal.
-/
def wire (d : Digits) : List Char :=
  if -5 ≤ d.lead ∧ d.lead ≤ 15 then
    if 0 ≤ d.exponent then
      d.positional ++ ['.', '0']
    else
      d.positional
  else
    d.withExponent

end Digits

namespace Binary64

/-
  The text of a binary value in a document.  Of two equally
  near candidates it takes the even one; what JSON has no
  number for is null.
-/
def wireCharacters : Binary64 → List Char
| .finite negative units _ =>
    withSign negative (shortest .toEven units).wire
| _ => ['n', 'u', 'l', 'l']

/- The text of a binary value in a document. -/
def wireText (x : Binary64) : String :=
  String.ofList x.wireCharacters

end Binary64

------------------------------------------------------------
-- Strings
------------------------------------------------------------

namespace Json

/- One hexadecimal digit, in lower case. -/
def hexDigit (n : Nat) : Char :=
  Nat.digitChar n

/- One character of a string. -/
def escapedCharacter (c : Char) : List Char :=
  match c with
  | '"' => ['\\', '"']
  | '\\' => ['\\', '\\']
  | '\x08' => ['\\', 'b']
  | '\t' => ['\\', 't']
  | '\n' => ['\\', 'n']
  | '\x0c' => ['\\', 'f']
  | '\r' => ['\\', 'r']
  | c =>
      if c.toNat < 32 then
        ['\\', 'u', '0', '0',
          hexDigit (c.toNat / 16), hexDigit (c.toNat % 16)]
      else
        [c]

/- A string between its quotes. -/
def quotedCharacters (s : String) : List Char :=
  '"' :: (s.toList.flatMap escapedCharacter ++ ['"'])

------------------------------------------------------------
-- Documents
------------------------------------------------------------

mutual

/- The text of a document. -/
def characters : Json → List Char
| .null => ['n', 'u', 'l', 'l']
| .boolean true => ['t', 'r', 'u', 'e']
| .boolean false => ['f', 'a', 'l', 's', 'e']
| .integer n =>
    Binary64.withSign (decide (n < 0))
      (Nat.toDigits 10 n.natAbs)
| .float x => x.wireCharacters
| .text s => quotedCharacters s
| .list [] => ['[', ']']
| .list (item :: rest) =>
    '[' :: (item.characters ++ charactersOfItems rest)
| .object [] => ['{', '}']
| .object ((name, value) :: rest) =>
    '{' :: (quotedCharacters name ++ ':' ::
      (value.characters ++ charactersOfMembers rest))

/- The text of the items after the first, and the end. -/
def charactersOfItems : List Json → List Char
| [] => [']']
| item :: rest =>
    ',' :: (item.characters ++ charactersOfItems rest)

/- The text of the members after the first, and the end. -/
def charactersOfMembers : List (String × Json) → List Char
| [] => ['}']
| (name, value) :: rest =>
    ',' :: (quotedCharacters name ++ ':' ::
      (value.characters ++ charactersOfMembers rest))

end

/- The text of a document. -/
def render (j : Json) : String :=
  String.ofList j.characters

end Json

end Registrar
