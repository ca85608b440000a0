import Mathlib.Order.Nat
import Registrar.Numeric.Digits
import Registrar.Proofs.Numeric.Rounding

/-
  This file proves that the digits chosen for a binary value
  denote the value, whichever way exact halves go, and that the
  value of digits does not change with zeros at their end.

  A value that is rounded from a quotient depends on nothing but
  the quotient.

  Main statements:
    * `Binary64.ofRatio_congr`
    * `Binary64.ofScientific_mul_tenTo`
    * `Binary64.toBinary64_shortest`
-/

------------------------------------------------------------
-- Equal Quotients
------------------------------------------------------------

namespace Registrar

namespace Binary64

-- Powers up to 2^2098 occur; none of them is to be computed.
attribute [local irreducible] twoTo fiveTo tenTo

/- Equal quotients are nearest to the same units. -/
theorem roundUnits_congr
    {num den num' den' : Nat}
    (hDen : 0 < den)
    (hDen' : 0 < den')
    (h : num * den' = num' * den) :
    roundUnits num den = roundUnits num' den' := by
  have hFloor : num / den = num' / den' := by
    rw [← Nat.mul_div_mul_right num den hDen', h,
      Nat.mul_comm den, Nat.mul_div_mul_right num' den' hDen]
  unfold roundUnits
  rw [hFloor]
  dsimp only
  have hStep := twoTo_pos ((num' / den').log2 - 52)
  rw [TieRule.roundQuotient_congr .toEven
    (Nat.mul_pos hDen hStep) (Nat.mul_pos hDen' hStep)]
  rw [← Nat.mul_assoc, ← Nat.mul_assoc, h]

/- Equal quotients are nearest to the same value. -/
theorem ofRatio_congr
    (negative : Bool)
    {num den num' den' : Nat}
    (hDen : 0 < den)
    (hDen' : 0 < den')
    (h : num * den' = num' * den) :
    ofRatio negative num den = ofRatio negative num' den' := by
  have hUnits : num * one * den' = num' * one * den := by
    rw [Nat.mul_right_comm, h, Nat.mul_right_comm]
  unfold ofRatio ofUnits
  simp only [roundUnits_congr hDen hDen' hUnits]

/- Units that can be held are not rounded. -/
theorem roundUnits_of_representable
    {units den : Nat}
    (hDen : 0 < den)
    (h : Representable units) :
    roundUnits (units * den) den = units := by
  have hStep := twoTo_pos (units.log2 - 52)
  have hDvd : twoTo (units.log2 - 52) ∣ units :=
    Nat.dvd_of_mod_eq_zero h.2
  unfold roundUnits
  rw [Nat.mul_div_cancel units hDen]
  dsimp only
  rw [Nat.mul_comm units den,
    TieRule.roundQuotient_of_dvd _ (Nat.mul_pos hDen hStep)
      (Nat.mul_dvd_mul_left den hDvd),
    Nat.mul_div_mul_left _ _ hDen, Nat.div_mul_cancel hDvd]

/- Units that can be held are nearest to themselves. -/
theorem ofUnits_of_representable
    (negative : Bool)
    {units den : Nat}
    (hDen : 0 < den)
    (h : Representable units) :
    ofUnits negative (units * den) den =
      .finite negative units h := by
  unfold ofUnits
  simp only [roundUnits_of_representable hDen h, h, dif_pos]

------------------------------------------------------------
-- Numbers Of Digits
------------------------------------------------------------

/- A number has at most so many digits if it is below a power. -/
theorem decimalLength_le_iff
    {n k : Nat} :
    decimalLength n ≤ k ↔ n < tenTo k := by
  unfold decimalLength
  split
  · next hZero =>
      subst hZero
      exact iff_of_true (Nat.zero_le k) (tenTo_pos k)
  · next hNonzero =>
      cases k with
      | zero =>
          have hSome : 0 < (Nat.toDigits 10 n).length :=
            Nat.length_toDigits_pos
          rw [tenTo_zero]
          omega
      | succ k =>
          unfold tenTo
          exact Nat.length_toDigits_le_iff (by decide)
            (Nat.succ_pos k)

/- Zeros at the end are digits. -/
theorem decimalLength_mul_tenTo
    {n : Nat}
    (h : n ≠ 0)
    (k : Nat) :
    decimalLength (n * tenTo k) = decimalLength n + k := by
  apply eq_of_forall_ge_iff
  intro m
  by_cases hLess : m < k
  · have hLarge : tenTo m ≤ n * tenTo k :=
      Nat.le_trans (tenTo_le_tenTo (Nat.le_of_lt hLess))
        (Nat.le_mul_of_pos_left _ (Nat.pos_of_ne_zero h))
    rw [decimalLength_le_iff]
    omega
  · have hSplit : m = m - k + k := by omega
    rw [decimalLength_le_iff, hSplit, tenTo_add,
      Nat.mul_lt_mul_right (tenTo_pos k), ← decimalLength_le_iff]
    omega

/-
  Zeros at the end, for which the exponent is lowered, do not
  change the value.
-/
theorem ofScientific_mul_tenTo
    (negative : Bool)
    (significand : Nat)
    (exponent : Int)
    (k : Nat) :
    ofScientific negative (significand * tenTo k)
        (exponent - k) =
      ofScientific negative significand exponent := by
  by_cases hZero : significand = 0
  · simp [ofScientific, hZero]
  have hPos := tenTo_pos k
  have hProduct : significand * tenTo k ≠ 0 :=
    Nat.mul_ne_zero hZero (Nat.ne_of_gt hPos)
  have hLead :
      exponent - k + decimalLength (significand * tenTo k) =
        exponent + decimalLength significand := by
    rw [decimalLength_mul_tenTo hZero]
    omega
  have hExponents :
      k + (exponent - k).toNat + (-exponent).toNat =
        exponent.toNat + (-(exponent - k)).toNat := by
    omega
  have hPowers :
      significand * tenTo k * tenTo (exponent - k).toNat *
          tenTo (-exponent).toNat =
        significand * tenTo exponent.toNat *
          tenTo (-(exponent - k)).toNat := by
    simp only [Nat.mul_assoc, ← tenTo_add]
    rw [hExponents]
  unfold ofScientific
  simp only [hLead, hZero, hProduct]
  rw [ofRatio_congr negative (tenTo_pos _) (tenTo_pos _) hPowers]

------------------------------------------------------------
-- Digits That Are Read Back
------------------------------------------------------------

/- The sign of digits is the sign of their value. -/
theorem ofScientific_finite
    {significand units : Nat}
    {exponent : Int}
    {sign : Bool}
    {h : Representable units}
    (hValue : ofScientific false significand exponent =
      .finite sign units h)
    (negative : Bool) :
    ofScientific negative significand exponent =
      .finite negative units h := by
  unfold ofScientific ofRatio ofUnits at hValue ⊢
  dsimp only at hValue ⊢
  split at hValue
  · next hSmall =>
      rw [if_pos hSmall]
      cases hValue
      rfl
  · next hNot =>
      rw [if_neg hNot]
      split at hValue
      · cases hValue
      · next hNotLarge =>
          rw [if_neg hNotLarge]
          split at hValue
          · next hHeld =>
              rw [dif_pos hHeld]
              cases hValue
              rfl
          · cases hValue

/- Digits that read back to units have their value. -/
theorem toBinary64_of_readsBackTo
    {d : Digits}
    {units : Nat}
    (hBack : d.readsBackTo units = true)
    (negative : Bool)
    (h : Representable units) :
    d.toBinary64 negative = .finite negative units h := by
  unfold Digits.readsBackTo at hBack
  split at hBack
  · next sign n hHeld hValue =>
      cases eq_of_beq hBack
      exact ofScientific_finite hValue negative
  · cases hBack

/- A hit of the search reads back to the units. -/
theorem readsBackTo_of_searchGrids
    {rule : TieRule}
    {units : Nat}
    {d : Digits}
    {grids : Nat}
    {exponent : Int}
    (h : searchGrids rule units grids exponent = some d) :
    d.readsBackTo units = true := by
  have hGrid : ∀ {exponent : Int},
      onGrid? rule units exponent = some d →
        d.readsBackTo units = true := by
    intro exponent hHit
    unfold onGrid? at hHit
    dsimp only at hHit
    split at hHit
    · next hNearer =>
        rw [← Option.some.inj hHit]
        exact hNearer
    · rcases Option.ite_none_right_eq_some.mp hHit with
        ⟨hFarther, hEq⟩
      rw [← Option.some.inj hEq]
      exact hFarther
  induction grids generalizing exponent with
  | zero => cases h
  | succ grids ih =>
      rw [searchGrids] at h
      cases hFirst : onGrid? rule units exponent with
      | some first =>
          rw [hFirst, Option.orElse_some] at h
          exact hGrid (hFirst.trans h)
      | none =>
          rw [hFirst, Option.orElse_none] at h
          exact ih h

private theorem tenTo_eq (n : Nat) :
    tenTo n = fiveTo n * twoTo n := by
  unfold tenTo fiveTo twoTo
  exact Nat.mul_pow 5 2 n

private theorem tenTo_750_le : tenTo 750 ≤ fiveTo unitBits := by
  decide +kernel

private theorem twoTo_1024_le : twoTo 1024 ≤ tenTo 309 := by
  decide +kernel

/- All digits of some units: at least 751, and at most 1383. -/
private theorem decimalLength_allDigits
    {units : Nat}
    (hNonzero : units ≠ 0)
    (hRange : units < rangeEnd) :
    750 < decimalLength (units * fiveTo unitBits) ∧
      decimalLength (units * fiveTo unitBits) ≤ 1383 := by
  rw [← Nat.not_le, decimalLength_le_iff, decimalLength_le_iff,
    Nat.not_lt]
  refine ⟨?_, ?_⟩
  · exact Nat.le_trans tenTo_750_le
      (Nat.le_mul_of_pos_left _ (Nat.pos_of_ne_zero hNonzero))
  · have hFive : 0 < fiveTo unitBits :=
      Nat.lt_of_lt_of_le (tenTo_pos 750) tenTo_750_le
    calc units * fiveTo unitBits
        < rangeEnd * fiveTo unitBits :=
          Nat.mul_lt_mul_of_pos_right hRange hFive
      _ = twoTo 1024 * tenTo unitBits := by
          rw [rangeEnd, twoTo_add, tenTo_eq, Nat.mul_comm,
            ← Nat.mul_assoc, Nat.mul_comm]
      _ ≤ tenTo 309 * tenTo unitBits :=
          Nat.mul_le_mul_right _ twoTo_1024_le
      _ = tenTo 1383 := (tenTo_add 309 unitBits).symm

/- All digits of some units have their value. -/
private theorem toBinary64_allDigits
    (negative : Bool)
    {units : Nat}
    (hNonzero : units ≠ 0)
    (h : Representable units) :
    (allDigits units).toBinary64 negative =
      .finite negative units h := by
  rcases decimalLength_allDigits hNonzero h.1 with
    ⟨hLower, hUpper⟩
  have hFive : units * fiveTo unitBits ≠ 0 := by
    apply Nat.mul_ne_zero hNonzero
    exact Nat.ne_of_gt
      (Nat.lt_of_lt_of_le (tenTo_pos 750) tenTo_750_le)
  have hBits : (unitBits : Int) = 1074 := rfl
  have hSmall : ¬ -(unitBits : Int) +
      decimalLength (units * fiveTo unitBits) < -323 := by
    omega
  have hLarge : ¬ 309 < -(unitBits : Int) +
      decimalLength (units * fiveTo unitBits) := by
    omega
  have hUp : (-(unitBits : Int)).toNat = 0 := rfl
  have hDown : (- -(unitBits : Int)).toNat = unitBits := rfl
  unfold allDigits Digits.toBinary64 ofScientific
  simp only [hFive, hSmall, hLarge, hUp, hDown, tenTo_zero, or_self,
    if_false, Nat.mul_one]
  unfold ofRatio one
  rw [Nat.mul_assoc, ← tenTo_eq]
  exact ofUnits_of_representable negative (tenTo_pos unitBits) h

/- The shortest digits of some units have their value. -/
theorem toBinary64_shortest
    (rule : TieRule)
    (negative : Bool)
    {units : Nat}
    (h : Representable units) :
    (shortest rule units).toBinary64 negative =
      .finite negative units h := by
  unfold shortest
  split
  · next hZero =>
      subst hZero
      simp [Digits.toBinary64, ofScientific]
  · next hNonzero =>
      split
      · next d hFound =>
          exact toBinary64_of_readsBackTo
            (readsBackTo_of_searchGrids hFound) negative h
      · exact toBinary64_allDigits negative hNonzero h

end Binary64

end Registrar
