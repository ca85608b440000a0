import Mathlib.Algebra.Order.Ring.Pow
import Registrar.Proofs.Numeric.Bounds

/-
  This file proves which binary values have digits that fit a
  decimal: those below 2^96.  A second attempt is made for the
  others only.

  Key definitions include:
    * `Decimal.Conversion.IsMonotone`

  Main statements:
    * `Decimal.ofDigits?_eq_none_iff`
    * `Decimal.exists_ofDigits?_of_between`
    * `Decimal.value_ofDigits?_mono`
-/

------------------------------------------------------------
-- Digits That Fit
------------------------------------------------------------

namespace Registrar

namespace Binary64

/- The least magnitude that has no digits that fit. -/
private def beyond : Nat :=
  twoTo 96 * one

/- The magnitude before it. -/
private def before : Nat :=
  (twoTo 53 - 1) * twoTo (unitBits + 43)

private theorem representable_beyond : Representable beyond := by
  decide +kernel

private theorem representable_before : Representable before := by
  decide +kernel

private theorem shortest_beyond :
    shortest .awayFromZero beyond = ⟨7922816251426434, 13⟩ := by
  decide +kernel

private theorem shortest_before :
    shortest .awayFromZero before = ⟨7922816251426433, 13⟩ := by
  decide +kernel

-- Powers up to 2^2098 occur; no more of them are to be computed.
attribute [local irreducible] twoTo tenTo

/- More units are not written as fewer digits. -/
private theorem value_shortest_mono
    {a b : Nat}
    (ha : Representable a)
    (hb : Representable b)
    (h : a ≤ b) :
    (shortest .awayFromZero a).value ≤
      (shortest .awayFromZero b).value := by
  have hMono := value_numeral_mono
    (x := finite false a ha) (y := finite false b hb) trivial
    trivial ⟨a, b, rfl, rfl, by exact_mod_cast h⟩
  rw [value_numeral, value_numeral] at hMono
  exact hMono

/- Below 2^96 there is no magnitude above the one before it. -/
private theorem le_before
    {units : Nat}
    (hUnits : Representable units)
    (h : units < beyond) :
    units ≤ before := by
  have hBeyond : beyond = twoTo 53 * twoTo (unitBits + 43) := by
    rw [beyond, one, ← twoTo_add, ← twoTo_add]
    rfl
  by_cases hSmall : units < twoTo (52 + (unitBits + 43))
  · have hHalf : twoTo 52 ≤ twoTo 53 - 1 :=
      Nat.le_sub_one_of_lt (twoTo_lt_twoTo (by decide))
    rw [twoTo_add] at hSmall
    exact hSmall.le.trans (Nat.mul_le_mul_right _ hHalf)
  · have hNonzero : units ≠ 0 := by
      rintro rfl
      exact hSmall (twoTo_pos _)
    have hLow : 52 + (unitBits + 43) ≤ units.log2 := by
      by_contra hNot
      exact hSmall ((log2_lt_iff_lt_twoTo hNonzero).mp
        (Nat.lt_of_not_le hNot))
    have hStep : unitBits + 43 ≤ units.log2 - 52 := by
      omega
    obtain ⟨steps, hSteps⟩ : twoTo (unitBits + 43) ∣ units :=
      (twoTo_dvd_twoTo hStep).trans
        (Nat.dvd_of_mod_eq_zero hUnits.2)
    rw [hSteps, Nat.mul_comm] at h ⊢
    rw [hBeyond] at h
    exact Nat.mul_le_mul_right _
      (Nat.le_sub_one_of_lt (Nat.lt_of_mul_lt_mul_right h))

/- The magnitude of a value is written without the sign. -/
private theorem abs_value_numeral
    (negative : Bool)
    {units : Nat}
    (hUnits : Representable units) :
    |(finite negative units hUnits).numeral.value| =
      (shortest .awayFromZero units).value := by
  rw [value_numeral]
  split
  · rw [abs_neg, abs_of_nonneg (Digits.value_nonneg _)]
  · exact abs_of_nonneg (Digits.value_nonneg _)

/- What a value below 2^96 is written as. -/
private theorem abs_value_numeral_le
    (negative : Bool)
    {units : Nat}
    (hUnits : Representable units)
    (h : units < beyond) :
    |(finite negative units hUnits).numeral.value| ≤
      7922816251426433 * 10 ^ 13 := by
  rw [abs_value_numeral]
  apply (value_shortest_mono hUnits representable_before
    (le_before hUnits h)).trans
  rw [shortest_before, Digits.value]
  norm_num

/- What a value from 2^96 on is written as. -/
private theorem le_abs_value_numeral
    (negative : Bool)
    {units : Nat}
    (hUnits : Representable units)
    (h : beyond ≤ units) :
    7922816251426434 * 10 ^ 13 ≤
      |(finite negative units hUnits).numeral.value| := by
  rw [abs_value_numeral]
  apply le_trans _ (value_shortest_mono representable_beyond
    hUnits h)
  rw [shortest_beyond, Digits.value]
  norm_num

/- The magnitude of a value, in units. -/
private theorem abs_value_finite
    (negative : Bool)
    {units : Nat}
    (hUnits : Representable units) :
    |(finite negative units hUnits).value| * one = units := by
  have hOne : (0 : ℚ) < one := Nat.cast_pos.mpr (twoTo_pos unitBits)
  have hAbs : |(signedUnits negative units : ℚ)| = units := by
    cases negative <;> simp [signedUnits]
  rw [value, abs_div, abs_of_pos hOne, div_mul_cancel₀ _ hOne.ne',
    hAbs]

private theorem beyond_le_iff
    (negative : Bool)
    {units : Nat}
    (hUnits : Representable units) :
    beyond ≤ units ↔
      2 ^ 96 ≤ |(finite negative units hUnits).value| := by
  have hOne : (0 : ℚ) < one := Nat.cast_pos.mpr (twoTo_pos unitBits)
  rw [← mul_le_mul_iff_left₀ hOne, abs_value_finite, ← cast_twoTo,
    beyond]
  exact_mod_cast Iff.rfl

end Binary64

namespace Decimal

open Binary64

variable {x y : Binary64} {a b : Decimal}

private theorem roundedTo_natCast (n : Nat) :
    roundedTo placesLimit (n : ℚ) = n :=
  roundedTo_of_eq_intCast (n := n * 10 ^ placesLimit) (by
    push_cast
    rfl)

/- Rounding passes no whole number. -/
private theorem le_abs_roundedTo
    {n : Nat}
    {q : ℚ}
    (h : n ≤ |q|) :
    n ≤ |roundedTo placesLimit q| := by
  have hWhole := roundedTo_natCast n
  rcases le_total 0 q with hNonneg | hNegative
  · rw [abs_of_nonneg hNonneg] at h
    rw [← hWhole]
    exact (roundedTo_mono placesLimit h).trans (le_abs_self _)
  · rw [abs_of_nonpos hNegative] at h
    rw [← hWhole, ← abs_neg, ← roundedTo_neg]
    exact (roundedTo_mono placesLimit h).trans (le_abs_self _)

/- The digits of a value fit if it is below 2^96, and only then. -/
theorem ofDigits?_eq_none_iff (hFinite : x.IsFinite) :
    ofDigits? x = none ↔ 2 ^ 96 ≤ |x.value| := by
  cases x with
  | nan => cases hFinite
  | infinite negative => cases hFinite
  | finite negative units hUnits =>
      rw [← beyond_le_iff]
      constructor
      · intro hNone
        by_contra hBelow
        have hLe := abs_value_numeral_le negative hUnits
          (Nat.lt_of_not_le hBelow)
        rcases exists_ofDigits?_of_abs_le hFinite (hLe.trans (by
            norm_num [mantissaLimit])) with
          ⟨a, hSome⟩
        rw [hNone] at hSome
        cases hSome
      · intro hBeyond
        rw [Option.eq_none_iff_forall_not_mem]
        intro a hSome
        have hWritten := le_abs_value_numeral
          negative hUnits hBeyond
        have hRounded :
            ((7922816251426434 * 10 ^ 13 : Nat) : ℚ) ≤ |a.value| := by
          rw [(value_ofDigits? hSome).2]
          apply le_abs_roundedTo
          exact_mod_cast hWritten
        have hLimit := hRounded.trans a.abs_value_le
        norm_num [mantissaLimit] at hLimit

/- With digits of two values those of all between them fit. -/
theorem exists_ofDigits?_of_between
    {z : Binary64}
    (hX : ofDigits? x = some a)
    (hZ : ofDigits? z = some b)
    (hFinite : y.IsFinite)
    (hLow : x.AtMost y)
    (hHigh : y.AtMost z) :
    ∃ c : Decimal, ofDigits? y = some c := by
  have hXFinite := (value_ofDigits? hX).1
  have hZFinite := (value_ofDigits? hZ).1
  have hXSmall : ¬ 2 ^ 96 ≤ |x.value| := by
    rw [← ofDigits?_eq_none_iff hXFinite, hX]
    exact Option.some_ne_none a
  have hZSmall : ¬ 2 ^ 96 ≤ |z.value| := by
    rw [← ofDigits?_eq_none_iff hZFinite, hZ]
    exact Option.some_ne_none b
  have hBetween := abs_le_max_abs_abs
    ((atMost_iff_value_le hXFinite hFinite).mp hLow)
    ((atMost_iff_value_le hFinite hZFinite).mp hHigh)
  apply Option.ne_none_iff_exists'.mp
  rw [Ne, ofDigits?_eq_none_iff hFinite, not_le]
  exact hBetween.trans_lt
    (max_lt (not_le.mp hXSmall) (not_le.mp hZSmall))

end Decimal

end Registrar
