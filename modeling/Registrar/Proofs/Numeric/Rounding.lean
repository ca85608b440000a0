import Mathlib.Order.Nat
import Mathlib.Tactic.Linarith
import Mathlib.Tactic.Ring
import Registrar.Numeric.Rounding

/-
  This file proves how far a rounded quotient is from the exact
  one, that it depends on nothing but the exact one, and that
  rounding it once more to a coarse step gives what rounding
  once gives, if the first step was fine enough.

  Main statements:
    * `TieRule.roundQuotient_congr`
    * `TieRule.roundQuotient_awayFromZero`
    * `TieRule.roundQuotient_roundQuotient`
-/

------------------------------------------------------------
-- Equal Quotients
------------------------------------------------------------

namespace Registrar

namespace TieRule

/- A common factor does not change a rounded quotient. -/
theorem roundQuotient_mul_right
    (rule : TieRule)
    (num den : Nat)
    {factor : Nat}
    (h : 0 < factor) :
    rule.roundQuotient (num * factor) (den * factor) =
      rule.roundQuotient num den := by
  have hRest : ∀ a b : Nat,
      2 * (a * factor) < b * factor ↔ 2 * a < b := by
    intro a b
    rw [← Nat.mul_assoc, Nat.mul_lt_mul_right h]
  have hBack : ∀ a b : Nat,
      b * factor < 2 * (a * factor) ↔ b < 2 * a := by
    intro a b
    rw [← Nat.mul_assoc, Nat.mul_lt_mul_right h]
  unfold roundQuotient
  simp only [Nat.mul_div_mul_right _ _ h, Nat.mul_mod_mul_right,
    hRest, hBack]

/- Equal quotients are rounded alike. -/
theorem roundQuotient_congr
    (rule : TieRule)
    {num den num' den' : Nat}
    (hDen : 0 < den)
    (hDen' : 0 < den')
    (h : num * den' = num' * den) :
    rule.roundQuotient num den =
      rule.roundQuotient num' den' := by
  rw [← rule.roundQuotient_mul_right num den hDen',
    ← rule.roundQuotient_mul_right num' den' hDen, h,
    Nat.mul_comm den]


------------------------------------------------------------
-- Distances
------------------------------------------------------------

section Distances

variable {num den : Nat}

/- A rounded quotient is at most a half above the exact one. -/
theorem roundQuotient_le
    (rule : TieRule)
    (num den : Nat) :
    2 * (den * rule.roundQuotient num den) ≤ 2 * num + den := by
  have hSplit := Nat.div_add_mod num den
  have hNext := Nat.mul_add_one den (num / den)
  unfold roundQuotient
  dsimp only
  split
  · omega
  · split
    · omega
    · split
      · omega
      · omega

/- It is at most a half below the exact one. -/
theorem le_roundQuotient
    (rule : TieRule)
    (num : Nat)
    (h : 0 < den) :
    2 * num ≤ 2 * (den * rule.roundQuotient num den) + den := by
  have hSplit := Nat.div_add_mod num den
  have hRest := Nat.mod_lt num h
  have hNext := Nat.mul_add_one den (num / den)
  unfold roundQuotient
  dsimp only
  split
  · omega
  · split
    · omega
    · split
      · omega
      · omega

/- What is rounded to more than a limit is above it. -/
theorem mul_lt_of_lt_roundQuotient
    {rule : TieRule}
    {limit : Nat}
    (hDen : 0 < den)
    (h : limit < rule.roundQuotient num den) :
    limit * den < num := by
  have hNear := rule.roundQuotient_le num den
  have hMore := Nat.mul_le_mul_left den (Nat.succ_le_of_lt h)
  rw [Nat.mul_succ] at hMore
  rw [Nat.mul_comm]
  omega

/- With halves away from zero, a half is added and cut off. -/
theorem roundQuotient_awayFromZero
    (num : Nat)
    (h : 0 < den) :
    awayFromZero.roundQuotient num den =
      (2 * num + den) / (2 * den) := by
  have hSplit := Nat.div_add_mod num den
  have hRest := Nat.mod_lt num h
  have hNext := Nat.mul_add_one den (num / den)
  have hTwice : ∀ k, k * (2 * den) = 2 * (den * k) := by
    intro k
    ring
  have hLater := Nat.mul_add_one den (num / den + 1)
  symm
  unfold roundQuotient goesUp
  simp only [if_true]
  split
  · apply Nat.div_eq_of_lt_le
    · rw [hTwice]
      omega
    · rw [hTwice]
      omega
  · rw [ite_self]
    apply Nat.div_eq_of_lt_le
    · rw [hTwice]
      omega
    · rw [hTwice]
      omega

/-
  Rounding a quotient twice gives what rounding it once gives,
  if the first rounding is to a step, an even part of one, that
  is finer than the denominator: between the exact quotient and
  a half it may not reach lies at least one part of the
  denominator, and a half that is reached is a whole number of
  steps.
-/
theorem roundQuotient_roundQuotient
    (rule : TieRule)
    (num : Nat)
    {step : Nat}
    (h : 0 < den)
    (hFine : den < step)
    (hEven : 2 ∣ step) :
    awayFromZero.roundQuotient
        (rule.roundQuotient (num * step) den) step =
      awayFromZero.roundQuotient num den := by
  have hStep : 0 < step := Nat.lt_trans h hFine
  rcases hEven with ⟨half, rfl⟩
  have hAbove := rule.roundQuotient_le (num * (2 * half)) den
  have hBelow := rule.le_roundQuotient (num * (2 * half)) h
  rw [roundQuotient_awayFromZero _ h,
    roundQuotient_awayFromZero _ hStep]
  generalize rule.roundQuotient (num * (2 * half)) den = fine at *
  apply eq_of_forall_le_iff
  intro k
  rw [Nat.le_div_iff_mul_le (by omega),
    Nat.le_div_iff_mul_le (by omega)]
  constructor
  · intro hTwice
    by_contra hOnce
    have hReached := Nat.mul_le_mul_left den hTwice
    have hMissed := Nat.mul_le_mul_right (2 * half)
      (Nat.succ_le_of_lt (Nat.lt_of_not_le hOnce))
    have hClose : 2 * half ≤ den := by linarith
    omega
  · intro hOnce
    by_contra hTwice
    have hShort : fine + half + 1 ≤ k * (2 * half) := by
      have hTimes : k * (2 * (2 * half)) = 2 * (k * (2 * half)) := by
        ring
      omega
    have hReached := Nat.mul_le_mul_left (2 * half) hOnce
    have hMissed := Nat.mul_le_mul_left (2 * den) hShort
    have hNone : den ≤ 0 := by linarith
    omega

end Distances

end TieRule

end Registrar
