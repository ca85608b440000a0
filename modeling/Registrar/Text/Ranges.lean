/-
  This file defines tables of characters as closed ranges of
  code points.

  Key definitions include:
    * `Text.Ranges`
    * `Text.Ranges.contains`
-/

------------------------------------------------------------
-- Ranges Of Code Points
------------------------------------------------------------

namespace Registrar

namespace Text

/- Closed ranges of code points: first and last. -/
abbrev Ranges :=
  List (Nat × Nat)

namespace Ranges

/- Whether a character lies in one of the ranges. -/
def contains
    (ranges : Ranges)
    (c : Char) : Bool :=
  ranges.any fun range =>
    decide (range.1 ≤ c.toNat) && decide (c.toNat ≤ range.2)

end Ranges

end Text

end Registrar
