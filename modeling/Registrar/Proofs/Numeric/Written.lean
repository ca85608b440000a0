import Registrar.Proofs.Numeric.Decimals
import Registrar.Proofs.Numeric.Nearest

/-
  This file proves what the text of a binary value says of it:
  the value is nearest to the number that is written, and larger
  values are written as larger numbers.

  Key definitions include:
    * `Digits.value`

  Main statements:
    * `Binary64.rank_ofScientific`
    * `Binary64.rank_nearest_numeral`
    * `Binary64.value_numeral_mono`
-/

------------------------------------------------------------
-- Digits As Numbers
------------------------------------------------------------

namespace Registrar

-- Powers up to 2^2098 occur; none of them is to be computed.
attribute [local irreducible] twoTo fiveTo tenTo

/- The number that digits denote. -/
def Digits.value (d : Digits) : ℚ :=
  d.significand * 10 ^ d.exponent

/- Digits denote a quotient of powers of ten. -/
theorem Digits.value_eq (d : Digits) :
    d.value =
      ((d.significand * tenTo d.exponent.toNat : Nat) : ℚ) /
        (tenTo (-d.exponent).toNat : Nat) := by
  have hSplit : d.exponent =
      (d.exponent.toNat : Int) - ((-d.exponent).toNat : Int) := by
    omega
  unfold value
  conv_lhs => rw [hSplit]
  rw [zpow_sub₀ (by norm_num), zpow_natCast, zpow_natCast,
    Nat.cast_mul, cast_tenTo, cast_tenTo, mul_div_assoc]

/- Digits have no sign. -/
theorem Digits.value_nonneg (d : Digits) : 0 ≤ d.value :=
  mul_nonneg (Nat.cast_nonneg _) (zpow_pos (by norm_num) _).le

namespace Binary64

/- A number other than zero lies between powers of ten. -/
private theorem tenTo_le_of_decimalLength
    {n : Nat}
    (h : n ≠ 0) :
    tenTo (decimalLength n - 1) ≤ n ∧
      n < tenTo (decimalLength n) := by
  have hSome : 0 < decimalLength n := by
    by_contra hNot
    have hLess := decimalLength_le_iff.mp (Nat.le_of_not_lt hNot)
    rw [tenTo_zero] at hLess
    omega
  refine ⟨?_, decimalLength_le_iff.mp (Nat.le_refl _)⟩
  by_contra hNot
  have hFewer := decimalLength_le_iff.mpr (Nat.lt_of_not_le hNot)
  omega

private theorem four_mul_one_le : 4 * one ≤ tenTo 324 := by
  decide +kernel

private theorem twoTo_1025_le : twoTo 1025 ≤ tenTo 309 := by
  decide +kernel

/- A number far below the smallest unit is nearest to zero. -/
private theorem rank_nearest_of_small
    {q : ℚ}
    (h : |q| * (4 * one) < 1) :
    (nearest q).rank = some 0 := by
  have hPos : (0 : ℚ) < one :=
    Nat.cast_pos.mpr (twoTo_pos unitBits)
  have hFinite : (nearest q).IsFinite := by
    have hOne : (1 : ℚ) ≤ one := by
      exact_mod_cast twoTo_pos unitBits
    have hScaled := mul_le_mul_of_nonneg_left hOne (abs_nonneg q)
    have hSmall : |q| < 2 ^ 200 := by linarith
    exact isFinite_nearest (hSmall.trans two_pow_lt_finiteLimit)
  rcases rank_of_isFinite hFinite with ⟨a, hA, hValue, -⟩
  have hNear := mul_le_mul_of_nonneg_right
    (abs_value_nearest_sub_le hFinite) hPos.le
  have hSplit : (|q| / 2 ^ 53 + 1 / (2 * one)) * one =
      |q| * one / 2 ^ 53 + 1 / 2 := by
    field_simp
  have hTriangle : |(a : ℚ)| ≤
      |(nearest q).value - q| * one + |q| * one := by
    rw [← hValue, abs_mul, abs_of_pos hPos, ← add_mul]
    apply mul_le_mul_of_nonneg_right _ hPos.le
    simpa using abs_add_le ((nearest q).value - q) q
  have hLess : |(a : ℚ)| < 1 := by
    rw [hSplit] at hNear
    linarith
  have hZero : |a| < 1 := by exact_mod_cast hLess
  rw [hA, Int.abs_lt_one_iff.mp hZero]

/- From 2^1025 on a number has no finite nearest value. -/
private theorem not_isFinite_nearest_of_large
    {q : ℚ}
    (h : (twoTo 1025 : ℚ) ≤ |q|) :
    ¬ (nearest q).IsFinite := by
  intro hFinite
  have hPos : (0 : ℚ) < one :=
    Nat.cast_pos.mpr (twoTo_pos unitBits)
  have hOne : (1 : ℚ) ≤ one := by
    exact_mod_cast twoTo_pos unitBits
  rcases rank_of_isFinite hFinite with ⟨a, hA, hValue, hRange⟩
  have hEnd : (rangeEnd : ℚ) = twoTo 1024 * one := by
    unfold rangeEnd one
    rw [Nat.add_comm, twoTo_add, Nat.cast_mul]
  have hTwice : (twoTo 1025 : ℚ) = 2 * twoTo 1024 := by
    rw [cast_twoTo, cast_twoTo, pow_succ']
  have hBelow : |(nearest q).value| < twoTo 1024 := by
    have hInt : |(a : ℚ)| < rangeEnd := by
      rw [← Int.cast_abs, Int.abs_eq_natAbs, Int.cast_natCast]
      exact_mod_cast hRange
    rw [← hValue, abs_mul, abs_of_pos hPos, hEnd] at hInt
    exact lt_of_mul_lt_mul_right hInt hPos.le
  have hLarge : (1 : ℚ) ≤ twoTo 1024 := by
    exact_mod_cast twoTo_pos 1024
  have hNear := abs_value_nearest_sub_le hFinite
  have hHalf : (1 : ℚ) / (2 * one) ≤ 1 / 2 := by
    apply one_div_le_one_div_of_le <;> linarith
  have hTriangle := abs_sub_abs_le_abs_sub q (nearest q).value
  rw [abs_sub_comm] at hTriangle
  linarith

/- The quotient that digits denote is rounded to their value. -/
theorem rank_ofRatio
    (negative : Bool)
    (d : Digits) :
    (ofRatio negative (d.significand * tenTo d.exponent.toNat)
        (tenTo (-d.exponent).toNat)).rank =
      (nearest (if negative then -d.value else d.value)).rank := by
  have hOne : (one : ℚ) ≠ 0 :=
    Nat.cast_ne_zero.mpr (twoTo_pos unitBits).ne'
  have hMagnitude : d.value =
      ((d.significand * tenTo d.exponent.toNat * one : Nat) :
          ℚ) /
        ((tenTo (-d.exponent).toNat : Nat) * one) := by
    rw [d.value_eq,
      Nat.cast_mul (d.significand * tenTo d.exponent.toNat),
      mul_div_mul_right _ _ hOne]
  unfold ofRatio
  rw [rank_ofUnits _ _ (tenTo_pos _), hMagnitude]
  unfold signedUnits
  cases negative with
  | true =>
      simp only [if_true, Int.cast_neg, Int.cast_natCast,
        neg_div]
  | false =>
      simp only [Bool.false_eq_true, if_false, Int.cast_natCast]

/- Digits denote less than the place before their first one. -/
private theorem value_lt_of_length
    {d : Digits}
    {place : Int}
    (hNonzero : d.significand ≠ 0)
    (h : decimalLength d.significand + d.exponent ≤ place) :
    d.value < 10 ^ place := by
  calc d.value
      < (tenTo (decimalLength d.significand) : ℚ) *
          10 ^ d.exponent :=
        mul_lt_mul_of_pos_right
          (by exact_mod_cast (tenTo_le_of_decimalLength hNonzero).2)
          (zpow_pos (by norm_num) _)
    _ = 10 ^ (decimalLength d.significand + d.exponent) := by
        rw [cast_tenTo, ← zpow_natCast, ← zpow_add₀ (by norm_num)]
    _ ≤ 10 ^ place := zpow_le_zpow_right₀ (by norm_num) h

/- They denote at least the place of their first one. -/
private theorem le_value_of_length
    {d : Digits}
    {place : Int}
    (hNonzero : d.significand ≠ 0)
    (h : place ≤
      (decimalLength d.significand - 1 : Nat) + d.exponent) :
    10 ^ place ≤ d.value := by
  calc (10 : ℚ) ^ place
      ≤ 10 ^ ((decimalLength d.significand - 1 : Nat) +
          d.exponent) :=
        zpow_le_zpow_right₀ (by norm_num) h
    _ = (tenTo (decimalLength d.significand - 1) : ℚ) *
          10 ^ d.exponent := by
        rw [cast_tenTo, ← zpow_natCast, ← zpow_add₀ (by norm_num)]
    _ ≤ d.value :=
        mul_le_mul_of_nonneg_right
          (by exact_mod_cast (tenTo_le_of_decimalLength hNonzero).1)
          (zpow_pos (by norm_num) _).le

/-
  The value of digits is the one nearest to the number that they
  denote, also where the power of ten is not computed.
-/
theorem rank_ofScientific
    (negative : Bool)
    (significand : Nat)
    (exponent : Int) :
    (ofScientific negative significand exponent).rank =
      (nearest (if negative then
          -(Digits.mk significand exponent).value
        else (Digits.mk significand exponent).value)).rank := by
  let d := Digits.mk significand exponent
  let q := if negative then -d.value else d.value
  have hAbs : |q| = d.value := by
    unfold q
    cases negative <;> simp [abs_of_nonneg d.value_nonneg]
  have hZeroRank : ∀ h,
      (finite negative 0 h).rank = some 0 := by
    intro h
    cases negative <;> rfl
  change _ = (nearest q).rank
  by_cases hZero : significand = 0
  · have hValue : |q| = 0 := by
      rw [hAbs]
      unfold d Digits.value
      rw [hZero, Nat.cast_zero, zero_mul]
    unfold ofScientific
    simp only [hZero, true_or, if_true]
    rw [hZeroRank, rank_nearest_of_small]
    rw [hValue, zero_mul]
    exact zero_lt_one
  unfold ofScientific
  dsimp only
  split
  · next hSmall =>
      have hLead := hSmall.resolve_left hZero
      have hPlace :
          decimalLength significand + exponent ≤ -324 := by
        omega
      have hBelow : d.value < 10 ^ (-324 : Int) :=
        value_lt_of_length hZero hPlace
      rw [hZeroRank, rank_nearest_of_small]
      have hUnits : (4 : ℚ) * one ≤ 10 ^ 324 := by
        rw [← cast_tenTo]
        exact_mod_cast four_mul_one_le
      rw [hAbs]
      calc d.value * (4 * one)
          ≤ d.value * 10 ^ 324 :=
            mul_le_mul_of_nonneg_left hUnits d.value_nonneg
        _ < 10 ^ (-324 : Int) * 10 ^ 324 :=
            mul_lt_mul_of_pos_right hBelow (by norm_num)
        _ = 1 := by
            rw [zpow_neg]
            exact inv_mul_cancel₀ (by norm_num)
  · next hNotSmall =>
      split
      · next hLarge =>
          have hPlace : 309 ≤
              (decimalLength significand - 1 : Nat) + exponent := by
            omega
          have hAbove : (twoTo 1025 : ℚ) ≤ d.value := by
            calc (twoTo 1025 : ℚ)
                ≤ (tenTo 309 : Nat) := by
                  exact_mod_cast twoTo_1025_le
              _ = 10 ^ (309 : Int) := by
                  rw [cast_tenTo]
                  rfl
              _ ≤ d.value := le_value_of_length hZero hPlace
          have hNone : ¬ (nearest q).IsFinite := by
            apply not_isFinite_nearest_of_large
            rwa [hAbs]
          have hPositive : 0 < d.value :=
            lt_of_lt_of_le (by exact_mod_cast twoTo_pos 1025)
              hAbove
          have hSign : decide (q < 0) = negative := by
            unfold q
            cases negative <;> simp [hPositive, hPositive.le]
          rw [nearest_of_not_isFinite hNone, hSign]
      · exact rank_ofRatio negative d

------------------------------------------------------------
-- Numbers As They Are Written
------------------------------------------------------------

/- The number that is written is the digits with the sign. -/
theorem value_numeral
    (negative : Bool)
    {units : Nat}
    (h : Representable units) :
    (finite negative units h).numeral.value =
      if negative then
        -(shortest .awayFromZero units).value
      else (shortest .awayFromZero units).value := by
  let d := shortest .awayFromZero units
  have hValue := Json.Numeral.value_of_exponent_eq_none
    (d.exponent_numeral negative)
  rw [d.negative_numeral negative, d.significand_numeral negative,
    d.length_decimals_numeral negative, ← d.value_eq] at hValue
  exact hValue

/- A value is nearest to the number that its text denotes. -/
theorem rank_nearest_numeral
    {x : Binary64}
    (h : x.IsFinite) :
    (nearest x.numeral.value).rank = x.rank := by
  cases x with
  | nan => cases h
  | infinite negative => cases h
  | finite negative units hUnits =>
      have hBack :=
        toBinary64_shortest .awayFromZero negative hUnits
      unfold Digits.toBinary64 at hBack
      rw [value_numeral, ← hBack]
      exact (rank_ofScientific negative _ _).symm

/- Values in one place are written as one number. -/
private theorem value_numeral_congr
    {x y : Binary64}
    (hx : x.IsFinite)
    (hy : y.IsFinite)
    (h : x.rank = y.rank) :
    x.numeral.value = y.numeral.value := by
  cases x with
  | nan => cases hx
  | infinite negative => cases hx
  | finite s a ha =>
      cases y with
      | nan => cases hy
      | infinite negative => cases hy
      | finite t b hb =>
          have hZero : (shortest .awayFromZero 0).value = 0 := by
            simp [shortest, Digits.value]
          rw [value_numeral, value_numeral]
          cases s <;> cases t <;> simp [rank] at h
          · rw [h]
          · obtain ⟨rfl, rfl⟩ : a = 0 ∧ b = 0 := by omega
            simp [hZero]
          · obtain ⟨rfl, rfl⟩ : a = 0 ∧ b = 0 := by omega
            simp [hZero]
          · rw [h]

/- A larger value is not written as a smaller number. -/
theorem value_numeral_mono
    {x y : Binary64}
    (hx : x.IsFinite)
    (hy : y.IsFinite)
    (h : x.AtMost y) :
    x.numeral.value ≤ y.numeral.value := by
  by_contra hNot
  have hLess := lt_of_not_ge hNot
  rcases nearest_mono hLess.le with ⟨b, a, hB, hA, hBack⟩
  rw [rank_nearest_numeral hx] at hA
  rw [rank_nearest_numeral hy] at hB
  rcases h with ⟨a', b', hA', hB', hLe⟩
  rw [hA] at hA'
  rw [hB] at hB'
  cases hA'
  cases hB'
  obtain rfl : a = b := Int.le_antisymm hLe hBack
  exact hLess.ne
    (value_numeral_congr hy hx (hB.trans hA.symm))

end Binary64

end Registrar
