/-
  This file defines the rounding of a quotient of natural
  numbers to a natural number, with a rule for exact halves.

  Key definitions include:
    * `TieRule`
    * `TieRule.roundQuotient`

  The rounded quotient is one of the two neighbours of the
  exact one:
    * `TieRule.div_le_roundQuotient`
    * `TieRule.roundQuotient_le_div_succ`
    * `TieRule.roundQuotient_of_dvd`
-/

------------------------------------------------------------
-- Tie Rules
------------------------------------------------------------

namespace Registrar

/- Where an exact half goes. -/
inductive TieRule where
| toEven
| awayFromZero
deriving DecidableEq, Repr

namespace TieRule

/- Whether the half above `quotient` goes up. -/
def goesUp : TieRule → Nat → Bool
| .toEven, quotient => quotient % 2 == 1
| .awayFromZero, _ => true

/-
  The natural number nearest to `num / den`, where an exact
  half goes as the rule says.  The denominator is positive.
-/
def roundQuotient
    (rule : TieRule)
    (num den : Nat) : Nat :=
  let quotient := num / den
  let rest := num % den
  if 2 * rest < den then
    quotient
  else if den < 2 * rest then
    quotient + 1
  else if rule.goesUp quotient then
    quotient + 1
  else
    quotient

/- Rounding never goes below the floor. -/
theorem div_le_roundQuotient
    (rule : TieRule)
    (num den : Nat) :
    num / den ≤ rule.roundQuotient num den := by
  unfold roundQuotient
  dsimp only
  split
  · exact Nat.le_refl _
  · split
    · exact Nat.le_succ _
    · split
      · exact Nat.le_succ _
      · exact Nat.le_refl _

/- Rounding never goes above the next whole number. -/
theorem roundQuotient_le_div_succ
    (rule : TieRule)
    (num den : Nat) :
    rule.roundQuotient num den ≤ num / den + 1 := by
  unfold roundQuotient
  dsimp only
  split
  · exact Nat.le_succ _
  · split
    · exact Nat.le_refl _
    · split
      · exact Nat.le_refl _
      · exact Nat.le_succ _

/- A whole quotient is kept. -/
theorem roundQuotient_of_dvd
    (rule : TieRule)
    {num den : Nat}
    (hden : 0 < den)
    (h : den ∣ num) :
    rule.roundQuotient num den = num / den := by
  have hrest : num % den = 0 := Nat.mod_eq_zero_of_dvd h
  unfold roundQuotient
  dsimp only
  rw [hrest]
  simp [hden]

end TieRule

end Registrar
