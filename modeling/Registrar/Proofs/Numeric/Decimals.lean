import Mathlib.Algebra.Order.Round
import Mathlib.Data.Rat.Floor
import Mathlib.Tactic.FieldSimp
import Mathlib.Tactic.Positivity
import Registrar.Numeric.Decimal
import Registrar.Proofs.Json.Digits
import Registrar.Proofs.Numeric.Rounding

/-
  This file proves what decimals stand for: the digits of the
  plain text of a binary value are kept, sums that fit are
  exact, and rounding to decimal places takes an exact half away
  from zero.

  Key definitions include:
    * `roundedTo`
    * `Json.Numeral.value`
    * `Decimal.value`

  Main statements:
    * `Decimal.value_roundPlaces`
    * `Decimal.value_dropZeros`
    * `Decimal.exists_ofDigits?`
    * `Decimal.exists_add?`
-/

------------------------------------------------------------
-- Rounding To Decimal Places
------------------------------------------------------------

namespace Registrar

-- Powers up to 10^28 occur; none of them is to be computed.
attribute [local irreducible] tenTo

/- A power of ten as a number. -/
theorem cast_tenTo (n : Nat) : (tenTo n : ℚ) = 10 ^ n := by
  unfold tenTo
  exact Nat.cast_pow 10 n

/-
  The nearest number with so many decimal places, where an exact
  half goes away from zero.
-/
def roundedTo
    (places : Nat)
    (q : ℚ) : ℚ :=
  let magnitude : ℚ := round (|q| * 10 ^ places) / 10 ^ places
  if q < 0 then -magnitude else magnitude

/- Opposite numbers are rounded to opposite numbers. -/
theorem roundedTo_neg
    (places : Nat)
    (q : ℚ) :
    roundedTo places (-q) = -roundedTo places q := by
  unfold roundedTo
  rw [abs_neg]
  rcases lt_trichotomy q 0 with hNegative | rfl | hPositive
  · simp [hNegative, hNegative.le]
  · simp
  · simp [hPositive, hPositive.le]

/- A rounded quotient is the nearest whole number. -/
private theorem round_div
    (num : Nat)
    {den : Nat}
    (h : 0 < den) :
    round ((num : ℚ) / den) =
      (TieRule.awayFromZero.roundQuotient num den : ℤ) := by
  have hDen : (den : ℚ) ≠ 0 := by positivity
  have hHalf : (num : ℚ) / den + 1 / 2 =
      ((2 * num + den : Nat) : ℚ) / ((2 * den : Nat) : ℚ) := by
    push_cast
    field_simp
  rw [round_eq, hHalf, Rat.floor_natCast_div_natCast,
    TieRule.roundQuotient_awayFromZero num h]
  norm_cast

/- A quotient is rounded on the grid of its decimal places. -/
theorem roundedTo_div
    (places num : Nat)
    {den : Nat}
    (h : 0 < den) :
    roundedTo places ((num : ℚ) / den) =
      (TieRule.awayFromZero.roundQuotient (num * tenTo places)
        den : ℚ) / 10 ^ places := by
  have hNonneg : 0 ≤ (num : ℚ) / den := by positivity
  have hScaled : (num : ℚ) / den * 10 ^ places =
      ((num * tenTo places : Nat) : ℚ) / den := by
    rw [Nat.cast_mul, cast_tenTo, div_mul_eq_mul_div]
  unfold roundedTo
  rw [abs_of_nonneg hNonneg, if_neg (not_lt.mpr hNonneg),
    hScaled, round_div _ h, Int.cast_natCast]

/- A number with no more decimal places stays as it is. -/
theorem roundedTo_of_eq_intCast
    {places : Nat}
    {q : ℚ}
    {n : ℤ}
    (h : q * 10 ^ places = n) :
    roundedTo places q = q := by
  have hScale : 0 < (10 : ℚ) ^ places := by positivity
  have hAbs : |q| * 10 ^ places = (|n| : ℤ) := by
    rw [Int.cast_abs, ← h, abs_mul, abs_of_pos hScale]
  unfold roundedTo
  rw [hAbs, round_intCast, ← hAbs, mul_div_cancel_right₀ _ hScale.ne']
  split
  · next hNegative => rw [abs_of_neg hNegative, neg_neg]
  · next hNonneg => exact abs_of_nonneg (not_lt.mp hNonneg)

------------------------------------------------------------
-- What Decimals Stand For
------------------------------------------------------------

/- The number that is written. -/
def Json.Numeral.value (n : Numeral) : ℚ :=
  let significand : ℚ := n.significand
  (if n.negative then -significand else significand) *
    10 ^ (n.exponent.getD 0 - n.decimals.length : ℤ)

/- Without an exponent, decimals are digits after the point. -/
theorem Json.Numeral.value_of_exponent_eq_none
    {n : Numeral}
    (h : n.exponent = none) :
    n.value =
      if n.negative then
        -((n.significand : ℚ) / (tenTo n.decimals.length : Nat))
      else
        (n.significand : ℚ) / (tenTo n.decimals.length : Nat) := by
  unfold value
  rw [h, Option.getD_none, zero_sub, zpow_neg, zpow_natCast,
    cast_tenTo, div_eq_mul_inv]
  split
  · rw [neg_mul]
  · rfl

/- The significand is the magnitude without its point. -/
theorem Json.Numeral.abs_value_mul
    {n : Numeral}
    (h : n.exponent = none) :
    |n.value| * 10 ^ n.decimals.length = n.significand := by
  have hScale : (10 : ℚ) ^ n.decimals.length ≠ 0 := by positivity
  have hMagnitude : 0 ≤
      (n.significand : ℚ) / 10 ^ n.decimals.length := by
    positivity
  have hAbs : |n.value| =
      (n.significand : ℚ) / 10 ^ n.decimals.length := by
    rw [value_of_exponent_eq_none h, cast_tenTo]
    split
    · rw [abs_neg, abs_of_nonneg hMagnitude]
    · exact abs_of_nonneg hMagnitude
  rw [hAbs, div_mul_cancel₀ _ hScale]

namespace Decimal

/- The number that a decimal stands for. -/
def value (a : Decimal) : ℚ :=
  a.mantissa / 10 ^ a.places

/- The sign of a decimal, and its magnitude as a quotient. -/
theorem value_eq
    {a : Decimal}
    {negative : Bool}
    {n : Nat}
    (h : a.mantissa = signed negative n) :
    a.value =
      if negative then
        -((n : ℚ) / (tenTo a.places : Nat))
      else
        (n : ℚ) / (tenTo a.places : Nat) := by
  unfold value signed at *
  rw [h, cast_tenTo]
  split
  · rw [Int.cast_neg, Int.cast_natCast, neg_div]
  · rw [Int.cast_natCast]

/- A whole number is its sign and its magnitude. -/
theorem signed_natAbs (n : Int) :
    signed (decide (n < 0)) n.natAbs = n := by
  unfold signed
  by_cases hNegative : n < 0
  · rw [if_pos (decide_eq_true hNegative)]
    omega
  · rw [if_neg fun hBack => hNegative (of_decide_eq_true hBack)]
    omega

/- The mantissa is the value without its decimal point. -/
theorem value_mul (a : Decimal) :
    a.value * 10 ^ a.places = a.mantissa := by
  have hScale : (10 : ℚ) ^ a.places ≠ 0 := by positivity
  exact div_mul_cancel₀ _ hScale

/- The magnitude of a decimal, as a quotient. -/
theorem abs_value_eq (a : Decimal) :
    |a.value| = a.mantissa.natAbs / 10 ^ a.places := by
  have hScale : (0 : ℚ) < 10 ^ a.places := by positivity
  rw [value, abs_div, abs_of_pos hScale, Nat.cast_natAbs,
    Int.cast_abs]

/- No decimal is beyond the limit. -/
theorem abs_value_le (a : Decimal) :
    |a.value| ≤ mantissaLimit := by
  rw [abs_value_eq]
  apply (div_le_self (Nat.cast_nonneg _)
    (one_le_pow₀ (by norm_num))).trans
  exact_mod_cast a.mantissa_le

/- Parts that fit are a decimal. -/
theorem exists_ofParts?
    {mantissa : Int}
    {places : Nat}
    (hMantissa : mantissa.natAbs ≤ mantissaLimit)
    (hPlaces : places ≤ placesLimit) :
    ∃ a : Decimal,
      ofParts? mantissa places = some a ∧
      a.mantissa = mantissa ∧ a.places = places :=
  ⟨⟨mantissa, places, hMantissa, hPlaces⟩,
    dif_pos ⟨hMantissa, hPlaces⟩, rfl, rfl⟩

/- A decimal has the parts that it was made of. -/
theorem parts_of_ofParts?
    {mantissa : Int}
    {places : Nat}
    {a : Decimal}
    (h : ofParts? mantissa places = some a) :
    a.mantissa = mantissa ∧ a.places = places := by
  unfold ofParts? at h
  split at h
  · cases h
    exact ⟨rfl, rfl⟩
  · cases h

/- A magnitude that fits is one with either sign. -/
theorem exists_ofParts?_signed
    (negative : Bool)
    {n places : Nat}
    (hFits : n ≤ mantissaLimit)
    (hPlaces : places ≤ placesLimit) :
    ∃ a : Decimal,
      ofParts? (signed negative n) places = some a ∧
      a.mantissa = signed negative n ∧ a.places = places := by
  rw [← natAbs_signed negative n] at hFits
  exact exists_ofParts? hFits hPlaces

/- Rounding to places rounds the number, halves away from zero. -/
theorem value_roundPlaces
    (a : Decimal)
    (places : Nat) :
    (a.roundPlaces places).value = roundedTo places a.value := by
  by_cases hFew : a.places ≤ places
  · have hWhole : a.value * 10 ^ places =
        (a.mantissa * tenTo (places - a.places) : ℤ) := by
      have hSplit : places = a.places + (places - a.places) := by
        omega
      rw [hSplit, pow_add, ← mul_assoc, a.value_mul,
        Nat.add_sub_cancel_left]
      push_cast
      rw [cast_tenTo]
    unfold roundPlaces
    rw [dif_pos hFew, roundedTo_of_eq_intCast hWhole]
  · have hScale : tenTo a.places =
        tenTo (a.places - places) * tenTo places := by
      rw [← tenTo_add, Nat.sub_add_cancel (Nat.le_of_not_le hFew)]
    have hRound : TieRule.awayFromZero.roundQuotient
        (a.mantissa.natAbs * tenTo places) (tenTo a.places) =
          TieRule.awayFromZero.roundQuotient a.mantissa.natAbs
            (tenTo (a.places - places)) := by
      rw [hScale, TieRule.roundQuotient_mul_right _ _ _
        (tenTo_pos places)]
    have hMagnitude := roundedTo_div places a.mantissa.natAbs
      (tenTo_pos a.places)
    rw [hRound] at hMagnitude
    unfold roundPlaces
    rw [dif_neg hFew, value_eq rfl, value_eq (signed_natAbs _).symm]
    dsimp only
    split
    · rw [roundedTo_neg, hMagnitude, cast_tenTo]
    · rw [hMagnitude, cast_tenTo]

/- Dropping zeros at the end changes no value. -/
theorem value_dropPlaces
    (count : Nat)
    (a : Decimal) :
    (a.dropPlaces count).value = a.value := by
  unfold dropPlaces
  split
  · next hDrop =>
      rcases hDrop with ⟨hPlaces, hZeros⟩
      have hWhole : a.mantissa.natAbs =
          a.mantissa.natAbs / tenTo count * tenTo count :=
        (Nat.div_mul_cancel (Nat.dvd_of_mod_eq_zero hZeros)).symm
      have hScale : tenTo a.places =
          tenTo (a.places - count) * tenTo count := by
        rw [← tenTo_add, Nat.sub_add_cancel hPlaces]
      have hCount : (tenTo count : ℚ) ≠ 0 :=
        Nat.cast_ne_zero.mpr (tenTo_pos count).ne'
      have hMagnitude : (a.mantissa.natAbs : ℚ) / tenTo a.places =
          (a.mantissa.natAbs / tenTo count : Nat) /
            tenTo (a.places - count) := by
        conv_lhs => rw [hWhole, hScale]
        push_cast
        exact mul_div_mul_right _ _ hCount
      rw [value_eq rfl, value_eq (signed_natAbs _).symm, hMagnitude]
  · rfl

theorem value_dropZeros (a : Decimal) :
    a.dropZeros.value = a.value := by
  have hEight : ∀ b : Decimal,
      b.dropEightPlaces.value = b.value := by
    intro b
    unfold dropEightPlaces
    split
    · exact value_dropPlaces 8 b
    · rfl
  unfold dropZeros
  simp only [value_dropPlaces, hEight]

------------------------------------------------------------
-- The Digits Of Binary Values
------------------------------------------------------------

/-
  A plain text whose digits fit is a decimal, with the places
  that are written.
-/
theorem exists_ofDigits?
    {x : Binary64}
    (hFinite : x.IsFinite)
    (hPlaces : x.numeral.decimals.length ≤ placesLimit)
    (hFits : x.numeral.significand ≤ mantissaLimit) :
    ∃ a : Decimal,
      ofDigits? x = some a ∧ a.value = x.numeral.value ∧
      a.places = x.numeral.decimals.length := by
  cases x with
  | nan => cases hFinite
  | infinite negative => cases hFinite
  | finite negative units hUnits =>
      let d := Binary64.shortest .awayFromZero units
      let n := d.numeral negative
      have hLength : n.decimals.length = (-d.exponent).toNat :=
        d.length_decimals_numeral negative
      have hSignificand : n.significand =
          d.significand * tenTo d.exponent.toNat :=
        d.significand_numeral negative
      have hMin : min (-d.exponent).toNat placesLimit =
          n.decimals.length := by
        rw [← hLength]
        exact Nat.min_eq_left hPlaces
      have hRound : TieRule.awayFromZero.roundQuotient
          (d.significand * tenTo d.exponent.toNat *
            tenTo n.decimals.length)
          (tenTo (-d.exponent).toNat) = n.significand := by
        have hScale := tenTo_pos n.decimals.length
        rw [← hSignificand, ← hLength,
          TieRule.roundQuotient_of_dvd _ hScale
            (Nat.dvd_mul_left _ _),
          Nat.mul_div_cancel _ hScale]
      rcases exists_ofParts?_signed negative hFits hPlaces with
        ⟨a, hSome, hMantissa, hSame⟩
      refine ⟨a, ?_, ?_, hSame⟩
      · unfold ofDigits?
        dsimp only
        rw [hMin, hRound]
        exact hSome
      · rw [value_eq hMantissa, hSame]
        have hValue := Json.Numeral.value_of_exponent_eq_none
          (d.exponent_numeral negative)
        rw [d.negative_numeral negative] at hValue
        exact hValue.symm

------------------------------------------------------------
-- Sums
------------------------------------------------------------

/- What is exact at so many places is the nearest there. -/
theorem exists_nearest?_of_eq
    (negative : Bool)
    {num den n places : Nat}
    (hDen : 0 < den)
    (hExact : num * tenTo places = den * n)
    (hFits : n ≤ mantissaLimit)
    (hPlaces : places ≤ placesLimit) :
    ∃ a : Decimal,
      nearest? negative num den places = some a ∧
      a.mantissa = signed negative n ∧ a.places = places := by
  have hRound : TieRule.toEven.roundQuotient
      (num * tenTo places) den = n := by
    rw [hExact, TieRule.roundQuotient_of_dvd _ hDen
      (Nat.dvd_mul_right den n), Nat.mul_div_cancel_left n hDen]
  rcases exists_ofParts?_signed negative hFits hPlaces with
    ⟨a, hSome, hParts⟩
  refine ⟨a, ?_, hParts⟩
  cases places with
  | zero =>
      rw [tenTo_zero, Nat.mul_one] at hRound
      unfold nearest?
      rw [hRound, hSome]
  | succ places =>
      unfold nearest?
      dsimp only
      rw [hRound, hSome]

/- With more places, the mantissa is widened. -/
theorem cast_widened
    {a : Decimal}
    {places : Nat}
    (h : a.places ≤ places) :
    ((a.mantissa * tenTo (places - a.places) : ℤ) : ℚ) =
      a.value * 10 ^ places := by
  have hSplit : (10 : ℚ) ^ places =
      10 ^ a.places * 10 ^ (places - a.places) := by
    rw [← pow_add, Nat.add_sub_cancel' h]
  push_cast
  rw [hSplit, ← mul_assoc, a.value_mul, cast_tenTo]

/- No mantissa stands for zero. -/
theorem value_eq_zero
    {a : Decimal}
    (h : a.mantissa = 0) :
    a.value = 0 := by
  rw [value, h, Int.cast_zero, zero_div]

/-
  A sum that fits at the larger number of places is exact.
-/
theorem exists_add?
    {a b : Decimal}
    {places : Nat}
    (hLeft : a.places ≤ places)
    (hRight : b.places ≤ places)
    (hPlaces : places ≤ placesLimit)
    (hFits : |a.value + b.value| * 10 ^ places ≤ mantissaLimit) :
    ∃ sum : Decimal,
      a.add? b = some sum ∧ sum.value = a.value + b.value ∧
      sum.places ≤ places := by
  unfold add?
  split
  · next hZero =>
      exact ⟨b, rfl, by rw [value_eq_zero hZero, zero_add], hRight⟩
  split
  · next hZero =>
      exact ⟨a, rfl, by rw [value_eq_zero hZero, add_zero], hLeft⟩
  let larger := max a.places b.places
  let sum :=
    a.mantissa * tenTo (larger - a.places) +
      b.mantissa * tenTo (larger - b.places)
  have hLarger : larger ≤ places := Nat.max_le.mpr ⟨hLeft, hRight⟩
  have hSum : (sum : ℚ) =
      (a.value + b.value) * 10 ^ larger := by
    rw [add_mul, ← cast_widened (Nat.le_max_left _ _),
      ← cast_widened (Nat.le_max_right _ _), ← Int.cast_add]
  have hMantissa : (sum.natAbs : ℚ) ≤ mantissaLimit := by
    have hScale : (10 : ℚ) ^ larger ≤ 10 ^ places :=
      pow_le_pow_right₀ (by norm_num) hLarger
    have hPos : (0 : ℚ) < 10 ^ larger := by positivity
    rw [Nat.cast_natAbs, Int.cast_abs, hSum, abs_mul,
      abs_of_pos hPos]
    exact le_trans
      (mul_le_mul_of_nonneg_left hScale (abs_nonneg _)) hFits
  rcases exists_nearest?_of_eq (decide (sum < 0))
      (tenTo_pos larger) (Nat.mul_comm sum.natAbs _)
      (by exact_mod_cast hMantissa)
      (Nat.le_trans hLarger hPlaces) with
    ⟨c, hSome, hSigned, hSame⟩
  refine ⟨c, hSome, ?_, hSame.trans_le hLarger⟩
  rw [value, hSigned, signed_natAbs, hSum, hSame]
  exact mul_div_cancel_right₀ _ (by positivity)

end Decimal

end Registrar
