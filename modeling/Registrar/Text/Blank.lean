import Registrar.Text.Ranges

/-
  This file holds the blank characters, by the property
  White_Space of Unicode.

  Key definitions include:
    * `Text.blanks`
    * `Text.isBlank`
    * `Text.isBlankText`
-/

------------------------------------------------------------
-- Blank Characters
------------------------------------------------------------

namespace Registrar

namespace Text

/- The twenty-five blank code points, ascending. -/
def blanks : Ranges :=
  [(0x9, 0xD), (0x20, 0x20), (0x85, 0x85), (0xA0, 0xA0),
    (0x1680, 0x1680), (0x2000, 0x200A), (0x2028, 0x2029),
    (0x202F, 0x202F), (0x205F, 0x205F), (0x3000, 0x3000)]

/- Whether a character is blank. -/
def isBlank (c : Char) : Bool :=
  blanks.contains c

/- Whether a text is empty or holds blanks only. -/
def isBlankText (s : String) : Bool :=
  s.toList.all isBlank

end Text

end Registrar
