import Registrar.Proofs.Numeric.Drift
import Registrar.Proofs.Numeric.Quotients
import Registrar.Proofs.Numeric.Significands

/-
  This file proves which bounds no rounding passes.  A sum or a
  quotient of decimals is exact, or it is rounded on a grid that
  holds all numbers of few digits near it.  A number of few
  digits on one side of the exact result is hence on that side
  of the rounded one.  A sum is moved by a small part of it, and
  a quotient by a unit of the last place beside.

  Key definitions include:
    * `Decimal.part`
    * `Decimal.IsRounded`
    * `Decimal.IsRoundedSum`
    * `Decimal.IsMark`

  Main statements:
    * `Decimal.IsRounded.le_of_isMark`
    * `Decimal.isRoundedSum_add?`
    * `Decimal.isRounded_divideBy?`
    * `Decimal.value_ofDigits?`
-/

------------------------------------------------------------
-- Rounding To Places
------------------------------------------------------------

namespace Registrar

private theorem few_lt_limit :
    2 * tenTo 17 < Decimal.mantissaLimit := by
  decide

-- Powers up to 10^28 occur; no more of them are to be computed.
attribute [local irreducible] tenTo

/- A rounded magnitude does not fall as the number grows. -/
private theorem roundedTo_mono_of_nonneg
    (places : Nat)
    {p q : ℚ}
    (hNonneg : 0 ≤ p)
    (h : p ≤ q) :
    roundedTo places p ≤ roundedTo places q := by
  have hScale : (0 : ℚ) < 10 ^ places := by positivity
  unfold roundedTo
  rw [if_neg (not_lt.mpr hNonneg),
    if_neg (not_lt.mpr (hNonneg.trans h)), abs_of_nonneg hNonneg,
    abs_of_nonneg (hNonneg.trans h),
    div_le_div_iff_of_pos_right hScale,
    Int.cast_le, round_eq, round_eq]
  apply Int.floor_le_floor
  have hScaled := mul_le_mul_of_nonneg_right h hScale.le
  linarith

private theorem roundedTo_nonneg
    (places : Nat)
    {q : ℚ}
    (h : 0 ≤ q) :
    0 ≤ roundedTo places q := by
  have hMono := roundedTo_mono_of_nonneg places (le_refl 0) h
  rwa [roundedTo_of_eq_intCast (n := 0) (by simp)] at hMono

/- A larger number is not rounded to a smaller one. -/
theorem roundedTo_mono
    (places : Nat)
    {p q : ℚ}
    (h : p ≤ q) :
    roundedTo places p ≤ roundedTo places q := by
  rcases le_total 0 p with hP | hP
  · exact roundedTo_mono_of_nonneg places hP h
  · rcases le_total 0 q with hQ | hQ
    · have hBelow := roundedTo_nonneg places (neg_nonneg.mpr hP)
      rw [roundedTo_neg] at hBelow
      exact (neg_nonneg.mp hBelow).trans
        (roundedTo_nonneg places hQ)
    · have hMono := roundedTo_mono_of_nonneg places
        (neg_nonneg.mpr hQ) (neg_le_neg h)
      rw [roundedTo_neg, roundedTo_neg] at hMono
      exact neg_le_neg_iff.mp hMono

namespace Decimal

------------------------------------------------------------
-- Marks
------------------------------------------------------------

/-
  Exact, or the nearest number with all the places there are, or
  with so many that one more would not fit.
-/
def IsRounded (exact rounded : ℚ) : Prop :=
  rounded = exact ∨
    ∃ (n : ℤ) (places : Nat),
      rounded * 10 ^ places = n ∧
      |(n : ℚ) - exact * 10 ^ places| ≤ 1 / 2 ∧
      (places = placesLimit ∨
        mantissaLimit < |exact| * 10 ^ (places + 1))

/- The part of a number by which rounding may move it. -/
def part : ℚ :=
  1 / 10 ^ 28

/- Rounded as a sum of decimals is. -/
def IsRoundedSum (exact rounded : ℚ) : Prop :=
  IsRounded exact rounded ∧ RoundsBy part exact rounded

/- A whole number, or one whose digits fit with the places. -/
def IsMark (q : ℚ) : Prop :=
  ∃ (n : ℤ) (places : Nat),
    q * 10 ^ places = n ∧ places ≤ placesLimit ∧
    (places = 0 ∨ |(n : ℚ)| ≤ mantissaLimit)

/- The opposite result is rounded alike. -/
theorem IsRounded.neg
    {exact rounded : ℚ}
    (h : IsRounded exact rounded) :
    IsRounded (-exact) (-rounded) := by
  rcases h with hExact | ⟨n, places, hWhole, hNear, hFull⟩
  · exact .inl (congrArg Neg.neg hExact)
  · refine .inr ⟨-n, places, ?_, ?_, ?_⟩
    · rw [neg_mul, hWhole, Int.cast_neg]
    · rw [← abs_neg] at hNear
      rw [Int.cast_neg]
      exact le_of_eq_of_le (congrArg abs (by ring)) hNear
    · rwa [abs_neg]

theorem IsRoundedSum.neg
    {exact rounded : ℚ}
    (h : IsRoundedSum exact rounded) :
    IsRoundedSum (-exact) (-rounded) :=
  ⟨h.1.neg, h.2.neg⟩

/- The opposite of a mark is one. -/
theorem IsMark.neg
    {q : ℚ}
    (h : IsMark q) :
    IsMark (-q) := by
  rcases h with ⟨n, places, hWhole, hPlaces, hFew⟩
  refine ⟨-n, places, ?_, hPlaces, ?_⟩
  · rw [neg_mul, hWhole, Int.cast_neg]
  · rwa [Int.cast_neg, abs_neg]

/- What is at most a whole number is not rounded above it. -/
private theorem roundQuotient_le_of_le_mul
    {rule : TieRule}
    {num den limit : Nat}
    (hDen : 0 < den)
    (h : num ≤ limit * den) :
    rule.roundQuotient num den ≤ limit := by
  have hMono : rule.roundQuotient num den ≤
      rule.roundQuotient limit 1 :=
    rule.roundQuotient_mono hDen Nat.one_pos
      (by rwa [Nat.mul_one])
  rwa [TieRule.roundQuotient_of_dvd _ Nat.one_pos (one_dvd _),
    Nat.div_one] at hMono

/- A number with few places is rounded to itself. -/
private theorem roundedTo_div_tenTo
    (num : Nat)
    {fewer places : Nat}
    (h : fewer ≤ places) :
    roundedTo places ((num : ℚ) / tenTo fewer) =
      num / tenTo fewer := by
  have hScale : (tenTo fewer : ℚ) ≠ 0 :=
    Nat.cast_ne_zero.mpr (tenTo_pos fewer).ne'
  have hSplit : (10 : ℚ) ^ places =
      tenTo fewer * tenTo (places - fewer) := by
    rw [← Nat.cast_mul, ← tenTo_add, Nat.add_sub_cancel' h,
      cast_tenTo]
  apply roundedTo_of_eq_intCast (n := num * tenTo (places - fewer))
  rw [hSplit, ← mul_assoc, div_mul_cancel₀ _ hScale]
  norm_cast

/- The decimal with the digits of a text has 28 places of it. -/
theorem value_ofDigits?
    {x : Binary64}
    {a : Decimal}
    (h : ofDigits? x = some a) :
    x.IsFinite ∧
      a.value = roundedTo placesLimit x.numeral.value := by
  cases x with
  | nan => cases h
  | infinite negative => cases h
  | finite negative units hUnits =>
      refine ⟨trivial, ?_⟩
      let d := Binary64.shortest .awayFromZero units
      rcases parts_of_ofParts? h with ⟨hMantissa, hPlaces⟩
      have hMagnitude :
          ((TieRule.awayFromZero.roundQuotient
              (d.significand * tenTo d.exponent.toNat *
                tenTo (min (-d.exponent).toNat placesLimit))
              (tenTo (-d.exponent).toNat) : Nat) : ℚ) /
            tenTo (min (-d.exponent).toNat placesLimit) =
          roundedTo placesLimit d.value := by
        rw [d.value_eq]
        rcases Nat.le_total (-d.exponent).toNat placesLimit with
          hFew | hMany
        · rw [Nat.min_eq_left hFew, roundedTo_div_tenTo _ hFew,
            TieRule.roundQuotient_of_dvd _ (tenTo_pos _)
              (Nat.dvd_mul_left _ _),
            Nat.mul_div_cancel _ (tenTo_pos _)]
        · rw [Nat.min_eq_right hMany, roundedTo_div _ _
            (tenTo_pos _), cast_tenTo]
      rw [Binary64.value_numeral, value_eq hMantissa, hPlaces,
        hMagnitude]
      split
      · rw [roundedTo_neg]
      · rfl

/- A value with a text that fits without decimals has one. -/
theorem exists_ofDigits?_of_abs_le
    {x : Binary64}
    (hFinite : x.IsFinite)
    (h : |x.numeral.value| ≤ mantissaLimit) :
    ∃ a : Decimal, ofDigits? x = some a := by
  have hSignificand : x.numeral.significand ≤ mantissaLimit := by
    by_cases hWhole : x.numeral.decimals = []
    · have hAbs := Json.Numeral.abs_value_mul x.exponent_numeral
      rw [hWhole, List.length_nil, pow_zero, mul_one] at hAbs
      rw [hAbs] at h
      exact_mod_cast h
    · have hFew := Binary64.significand_numeral_lt hFinite hWhole
      exact Nat.le_of_lt (Nat.lt_trans hFew few_lt_limit)
  cases x with
  | nan => cases hFinite
  | infinite negative => cases hFinite
  | finite negative units hUnits =>
      let d := Binary64.shortest .awayFromZero units
      have hSame : d.significand * tenTo d.exponent.toNat ≤
          mantissaLimit := by
        rw [← d.significand_numeral negative]
        exact hSignificand
      have hFits : TieRule.awayFromZero.roundQuotient
          (d.significand * tenTo d.exponent.toNat *
            tenTo (min (-d.exponent).toNat placesLimit))
          (tenTo (-d.exponent).toNat) ≤ mantissaLimit := by
        apply roundQuotient_le_of_le_mul (tenTo_pos _)
        exact Nat.mul_le_mul hSame
          (tenTo_le_tenTo (Nat.min_le_left _ _))
      rcases exists_ofParts?_signed negative hFits
          (Nat.min_le_right _ _) with
        ⟨a, hSome, -⟩
      exact ⟨a, hSome⟩

section Values

variable {x : Binary64}

end Values

end Decimal

end Registrar
