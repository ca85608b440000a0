import Registrar.Json.ReadError

/-
  This file defines readers of JSON text.  A reader takes a
  value off the front of the text and leaves the rest, or names
  the first problem met.

  Key definitions include:
    * `Json.Reader`
    * `Json.skipBlanks`
    * `Json.readWord`
    * `Json.readWhole`

  A run of blanks is skipped in full:
    * `Json.skipBlanks_of_not_isBlank`
-/

------------------------------------------------------------
-- Readers
------------------------------------------------------------

namespace Registrar

namespace Json

/- A value off the front of a text, and the rest. -/
abbrev Reader (α : Type) : Type :=
  List Char → Except ReadError (α × List Char)

/- The blanks that may stand between the parts of a text. -/
def isBlank (c : Char) : Bool :=
  c == ' ' || c == '\t' || c == '\n' || c == '\r'

/- The text after leading blanks. -/
def skipBlanks (input : List Char) : List Char :=
  input.dropWhile isBlank

/- Nothing is skipped before a character that is no blank. -/
theorem skipBlanks_of_not_isBlank
    {c : Char}
    (rest : List Char)
    (hc : isBlank c = false) :
    skipBlanks (c :: rest) = c :: rest := by
  simp [skipBlanks, List.dropWhile, hc]

/- The letters of a word, after its first. -/
def readWord : List Char → Reader Unit
| [], input => .ok ((), input)
| _ :: _, [] => .error .endInValue
| letter :: letters, c :: input =>
    if c = letter then
      readWord letters input
    else
      .error .expectedWord

/- A value that is the whole of a text, blanks apart. -/
def readWhole
    {α : Type}
    (read : Reader α)
    (input : String) : Except ReadError α :=
  match read input.toList with
  | .error e => .error e
  | .ok (value, rest) =>
      match skipBlanks rest with
      | [] => .ok value
      | _ :: _ => .error .trailingCharacters

end Json

end Registrar
