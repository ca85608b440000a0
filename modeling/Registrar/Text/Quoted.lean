import Registrar.Text.Printable
import Registrar.Text.Extending

/-
  This file quotes a text so that every character of it can be
  seen: it stands between double quotes, and what would end
  the quotation, move the line or not show at all is escaped.

  Key definitions include:
    * `Text.hexCharacters`
    * `Text.escaped`
    * `Text.quoted`
-/

------------------------------------------------------------
-- Quotation
------------------------------------------------------------

namespace Registrar

namespace Text

/- A number in lower-case hexadecimal, without padding. -/
def hexCharacters (n : Nat) : List Char :=
  Nat.toDigits 16 n

/- A code point between braces. -/
def codePoint (c : Char) : List Char :=
  '\\' :: 'u' :: '{' :: (hexCharacters c.toNat ++ ['}'])

/- One character of a quotation. -/
def escaped (c : Char) : List Char :=
  match c with
  | '\x00' => ['\\', '0']
  | '\t' => ['\\', 't']
  | '\n' => ['\\', 'n']
  | '\r' => ['\\', 'r']
  | '"' => ['\\', '"']
  | '\\' => ['\\', '\\']
  | c =>
      if isPrintable c && !isExtending c then
        [c]
      else
        codePoint c

/- A text between double quotes, with escapes. -/
def quoted (s : String) : String :=
  String.ofList ('"' :: (s.toList.flatMap escaped ++ ['"']))

end Text

end Registrar
