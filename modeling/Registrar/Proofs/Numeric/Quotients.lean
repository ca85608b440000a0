import Mathlib.Data.Nat.Cast.Field
import Registrar.Proofs.Numeric.Decimals

/-
  This file proves that quotients of decimals are exact to two
  places.  A quotient is rounded to the last place that fits.
  If its dividend and its divisor are not too large, that place
  is so fine that rounding to two places afterwards gives what
  rounding the exact quotient gives.

  Main statements:
    * `Decimal.mantissa_of_nearest?`
    * `Decimal.divisionPlaces_stops`
    * `Decimal.roundedTo_roundQuotient`
    * `Decimal.exists_divideBy?`
-/

------------------------------------------------------------
-- The Nearest Decimal
------------------------------------------------------------

namespace Registrar

private theorem two_dvd_tenTo_one : 2 ∣ tenTo 1 :=
  ⟨5, rfl⟩

/- The limits of a decimal leave room behind 25 digits. -/
private theorem tenTo_lt_limits :
    tenTo 25 < Decimal.mantissaLimit ∧
      tenTo 26 * tenTo 2 < Decimal.mantissaLimit ∧
      tenTo 2 * tenTo 25 < tenTo Decimal.placesLimit := by
  decide

-- Powers up to 10^28 occur; no more of them are to be computed.
attribute [local irreducible] tenTo

namespace Decimal

/- A number whose whole part fits has a nearest decimal. -/
theorem exists_nearest?
    (negative : Bool)
    {num den : Nat}
    (hFits : TieRule.toEven.roundQuotient num den ≤
      mantissaLimit)
    (places : Nat) :
    ∃ a : Decimal, nearest? negative num den places = some a := by
  induction places with
  | zero =>
      rcases exists_ofParts?_signed negative hFits
          (Nat.zero_le placesLimit) with
        ⟨a, hSome, -⟩
      exact ⟨a, hSome⟩
  | succ places ih =>
      unfold nearest?
      dsimp only
      split
      · exact ⟨_, rfl⟩
      · exact ih

/-
  The nearest decimal has the most places up to those wanted, or
  with one more its mantissa would not fit.
-/
theorem mantissa_of_nearest?
    {negative : Bool}
    {num den places : Nat}
    {a : Decimal}
    (hDen : 0 < den)
    (hPlaces : places ≤ placesLimit)
    (h : nearest? negative num den places = some a) :
    a.mantissa = signed negative
        (TieRule.toEven.roundQuotient
          (num * tenTo a.places) den) ∧
      (a.places = places ∨
        mantissaLimit * den < num * tenTo (a.places + 1)) := by
  induction places with
  | zero =>
      rcases parts_of_ofParts? h with ⟨hMantissa, hZero⟩
      refine ⟨?_, .inl hZero⟩
      rw [hMantissa, hZero, tenTo_zero, Nat.mul_one]
  | succ places ih =>
      unfold nearest? at h
      dsimp only at h
      split at h
      · next d hFits =>
          cases h
          rcases parts_of_ofParts? hFits with ⟨hMantissa, hSame⟩
          exact ⟨by rw [hMantissa, hSame], .inl hSame⟩
      · next hNone =>
          have hMore : mantissaLimit <
              TieRule.toEven.roundQuotient
                (num * tenTo (places + 1)) den := by
            by_contra hNot
            rcases exists_ofParts?_signed negative
                (Nat.le_of_not_lt hNot) hPlaces with
              ⟨d, hSome, -⟩
            rw [hSome] at hNone
            cases hNone
          have hLarge := TieRule.mul_lt_of_lt_roundQuotient hDen hMore
          rcases ih (Nat.le_of_succ_le hPlaces) h with
            ⟨hMantissa, hWhy⟩
          refine ⟨hMantissa, .inr ?_⟩
          rcases hWhy with hSame | hLimit
          · rw [hSame]
            exact hLarge
          · exact hLimit

------------------------------------------------------------
-- Where A Division Stops
------------------------------------------------------------

/- No place more than is allowed is found room for. -/
private theorem room_le
    (mantissa places : Nat) :
    room mantissa places ≤ places := by
  induction places with
  | zero => exact Nat.le_refl 0
  | succ places ih =>
      unfold room
      split
      · exact Nat.le_refl _
      · exact Nat.le_succ_of_le ih

/- Without room, one more place does not fit. -/
private theorem lt_of_room_eq_zero
    {mantissa places : Nat}
    (hSome : 0 < places)
    (h : room mantissa places = 0) :
    mantissaLimit < mantissa * tenTo 1 := by
  induction places with
  | zero => exact absurd hSome (Nat.lt_irrefl 0)
  | succ places ih =>
      unfold room at h
      split at h
      · cases h
      · next hNot =>
          rcases Nat.eq_zero_or_pos places with rfl | hMore
          · exact Nat.lt_of_not_le hNot
          · exact ih hMore h

/-
  A division stops when nothing remains, when all places are
  taken, or when one more place would not fit.
-/
theorem divisionPlaces_stops
    (num den : Nat)
    {steps places : Nat}
    (hDen : 0 < den)
    (hPlaces : places ≤ placesLimit)
    (hSteps : placesLimit ≤ places + steps) :
    divisionPlaces num den steps places ≤ placesLimit ∧
    (den ∣ num * tenTo (divisionPlaces num den steps places) ∨
      divisionPlaces num den steps places = placesLimit ∨
      mantissaLimit * den <
        num * tenTo (divisionPlaces num den steps places + 1)) := by
  induction steps generalizing places with
  | zero =>
      have hAll : places = placesLimit := by omega
      exact ⟨hPlaces, .inr (.inl hAll)⟩
  | succ steps ih =>
      unfold divisionPlaces
      dsimp only
      have hRoom := room_le (num * tenTo places / den)
        (min 9 (placesLimit - places))
      split
      · next hStop =>
          refine ⟨hPlaces, ?_⟩
          rcases hStop with hNothing | hFull
          · exact .inl (Nat.dvd_of_mod_eq_zero hNothing)
          · rcases Nat.eq_zero_or_pos (placesLimit - places) with
              hAll | hFewer
            · exact .inr (.inl (by omega))
            · have hLarge := lt_of_room_eq_zero
                (Nat.lt_min.mpr ⟨by decide, hFewer⟩) hFull
              have hFloor :=
                Nat.div_mul_le_self (num * tenTo places) den
              -- The quotient so far, widened by ten, is beyond
              -- the limit; the exact one is not below it.
              refine .inr (.inr ?_)
              calc mantissaLimit * den
                  < num * tenTo places / den * tenTo 1 * den :=
                    Nat.mul_lt_mul_of_pos_right hLarge hDen
                _ = num * tenTo places / den * den * tenTo 1 :=
                    Nat.mul_right_comm _ _ _
                _ ≤ num * tenTo places * tenTo 1 :=
                    Nat.mul_le_mul_right _ hFloor
                _ = num * tenTo (places + 1) := by
                    rw [tenTo_add, Nat.mul_assoc]
      · next hGoOn =>
          have hMore : room (num * tenTo places / den)
              (min 9 (placesLimit - places)) ≠ 0 :=
            fun hNone => hGoOn (.inr hNone)
          apply ih
          · omega
          · omega

------------------------------------------------------------
-- Rounding Twice
------------------------------------------------------------

/-
  Rounding to many places first does not change what rounding to
  few places gives, if the many are fine enough.
-/
theorem roundedTo_roundQuotient
    (rule : TieRule)
    (num : Nat)
    {den places finer : Nat}
    (hDen : 0 < den)
    (hFine : tenTo places * den < tenTo finer) :
    roundedTo places
        ((rule.roundQuotient (num * tenTo finer) den : Nat) /
          (tenTo finer : Nat)) =
      roundedTo places ((num : ℚ) / den) := by
  have hMore : places < finer := by
    by_contra hNot
    have hLe := tenTo_le_tenTo (Nat.le_of_not_lt hNot)
    have hPos := Nat.le_mul_of_pos_right (tenTo places) hDen
    omega
  let step := tenTo (finer - places)
  have hSplit : tenTo finer = step * tenTo places := by
    rw [← tenTo_add, Nat.sub_add_cancel (Nat.le_of_lt hMore)]
  have hStep : den < step := by
    rw [hSplit, Nat.mul_comm] at hFine
    exact Nat.lt_of_mul_lt_mul_right hFine
  have hEven : 2 ∣ step := by
    have hTen : step = tenTo (finer - places - 1) * tenTo 1 := by
      rw [← tenTo_add,
        Nat.sub_add_cancel (Nat.sub_pos_of_lt hMore)]
    rw [hTen]
    exact Nat.dvd_mul_left_of_dvd two_dvd_tenTo_one _
  have hNum : num * tenTo finer = num * tenTo places * step := by
    rw [hSplit, Nat.mul_comm step, Nat.mul_assoc]
  rw [roundedTo_div places _ (tenTo_pos finer),
    roundedTo_div places num hDen, hNum]
  conv_lhs => rw [hSplit]
  rw [TieRule.roundQuotient_mul_right _ _ _ (tenTo_pos places),
    rule.roundQuotient_roundQuotient _ hDen hStep hEven]

/- The bounds on dividends and divisors leave enough places. -/
private theorem tenTo_two_mul_lt
    {num den places : Nat}
    (hDen : 0 < den)
    (hNum : num ≤ tenTo 25)
    (hDenLe : den ≤ tenTo 25)
    (h : places = placesLimit ∨
      mantissaLimit * den < num * tenTo (places + 1)) :
    tenTo 2 * den < tenTo places := by
  rcases h with rfl | hLimit
  · calc tenTo 2 * den
        ≤ tenTo 2 * tenTo 25 := Nat.mul_le_mul_left _ hDenLe
      _ < tenTo placesLimit := tenTo_lt_limits.2.2
  · apply Nat.lt_of_mul_lt_mul_left
    calc tenTo 26 * (tenTo 2 * den)
        = tenTo 26 * tenTo 2 * den := (Nat.mul_assoc _ _ _).symm
      _ < mantissaLimit * den :=
          Nat.mul_lt_mul_of_pos_right tenTo_lt_limits.2.1 hDen
      _ ≤ num * tenTo (places + 1) := Nat.le_of_lt hLimit
      _ ≤ tenTo 25 * tenTo (places + 1) :=
          Nat.mul_le_mul_right _ hNum
      _ = tenTo 26 * tenTo places := by
          rw [← tenTo_add, ← tenTo_add]
          congr 1
          omega

------------------------------------------------------------
-- Quotients
------------------------------------------------------------

/-
  The decimal at which a division stops is the exact quotient,
  once both are rounded to two places.
-/
theorem exists_nearest?_divisionPlaces
    (negative : Bool)
    {num den places : Nat}
    (hDen : 0 < den)
    (hNum : num ≤ tenTo 25)
    (hDenLe : den ≤ tenTo 25)
    (hPlaces : places ≤ placesLimit) :
    ∃ (q : Decimal) (n : Nat),
      nearest? negative num den
          (divisionPlaces num den placesLimit places) = some q ∧
      q.mantissa = signed negative n ∧
      roundedTo 2 ((n : ℚ) / (tenTo q.places : Nat)) =
        roundedTo 2 ((num : ℚ) / den) := by
  have hFits := tenTo_lt_limits.1
  rcases divisionPlaces_stops num den hDen hPlaces
      (Nat.le_add_left placesLimit places) with
    ⟨hStopLe, hStop⟩
  have hWhole : TieRule.toEven.roundQuotient num den ≤
      mantissaLimit := by
    have hNear :=
      TieRule.toEven.roundQuotient_le_div_succ num den
    have hDiv := Nat.div_le_self num den
    omega
  rcases exists_nearest? negative hWhole
      (divisionPlaces num den placesLimit places) with
    ⟨q, hSome⟩
  rcases mantissa_of_nearest? hDen hStopLe hSome with
    ⟨hMantissa, hWhy⟩
  refine ⟨q, _, hSome, hMantissa, ?_⟩
  have hRounded :
      q.places = placesLimit ∨
        mantissaLimit * den < num * tenTo (q.places + 1) →
      roundedTo 2 ((TieRule.toEven.roundQuotient
          (num * tenTo q.places) den : Nat) /
            (tenTo q.places : Nat)) =
        roundedTo 2 ((num : ℚ) / den) := by
    intro hFine
    exact roundedTo_roundQuotient _ num hDen
      (tenTo_two_mul_lt hDen hNum hDenLe hFine)
  rcases hWhy with hSame | hLimit
  · rw [← hSame] at hStop
    rcases hStop with hExact | hFine
    · -- Nothing remains, however few the places are.
      have hScale : (tenTo q.places : ℚ) ≠ 0 :=
        Nat.cast_ne_zero.mpr (tenTo_pos _).ne'
      rw [TieRule.roundQuotient_of_dvd _ hDen hExact,
        Nat.cast_div hExact (Nat.cast_ne_zero.mpr hDen.ne'),
        Nat.cast_mul, div_right_comm,
        mul_div_cancel_right₀ _ hScale]
    · exact hRounded hFine
  · exact hRounded (.inr hLimit)

/- A mantissa that is a multiple is divided exactly. -/
theorem exists_tdiv
    {a : Decimal}
    {count : Nat}
    (hCount : 0 < count)
    (hMultiple : a.mantissa.natAbs % count = 0) :
    ∃ q : Decimal,
      ofParts? (a.mantissa.tdiv count) a.places = some q ∧
      q.value = a.value / count := by
  have hDvd : (count : ℤ) ∣ a.mantissa :=
    Int.natCast_dvd.mpr (Nat.dvd_of_mod_eq_zero hMultiple)
  have hSmall : (a.mantissa.tdiv count).natAbs ≤
      mantissaLimit := by
    rw [Int.natAbs_tdiv]
    exact Nat.le_trans (Nat.div_le_self _ _) a.mantissa_le
  have hNonzero : (count : ℚ) ≠ 0 :=
    Nat.cast_ne_zero.mpr hCount.ne'
  rcases exists_ofParts? hSmall a.places_le with
    ⟨q, hSome, hMantissa, hPlaces⟩
  refine ⟨q, hSome, ?_⟩
  unfold value
  rw [hMantissa, hPlaces, div_right_comm]
  congr 1
  rw [eq_div_iff hNonzero]
  exact_mod_cast Int.tdiv_mul_cancel hDvd

/-
  A quotient whose dividend and divisor, counted in the last
  place of the dividend, are at most 10^25 is close enough to
  the exact quotient: rounded to two places it is the exact
  quotient rounded to two places.
-/
theorem exists_divideBy?
    {a : Decimal}
    {count : Nat}
    (hCount : 0 < count)
    (hNum : a.mantissa.natAbs ≤ tenTo 25)
    (hDenLe : tenTo a.places * count ≤ tenTo 25) :
    ∃ q : Decimal,
      a.divideBy? count = some q ∧
      roundedTo 2 q.value = roundedTo 2 (a.value / count) := by
  unfold divideBy?
  rw [if_neg (Nat.ne_of_gt hCount)]
  split
  · next hZero =>
      refine ⟨zero, rfl, ?_⟩
      unfold value
      rw [hZero]
      simp [zero]
  split
  · next hMultiple =>
      rcases exists_tdiv hCount hMultiple with
        ⟨q, hSome, hExact⟩
      exact ⟨q, hSome, by rw [hExact]⟩
  · have hDen : 0 < tenTo a.places * count :=
      Nat.mul_pos (tenTo_pos _) hCount
    rcases exists_nearest?_divisionPlaces
        (decide (a.mantissa < 0)) hDen hNum hDenLe a.places_le with
      ⟨q, n, hSome, hMantissa, hRounded⟩
    refine ⟨q.dropZeros, congrArg (Option.map dropZeros) hSome, ?_⟩
    rw [Nat.cast_mul, ← div_div] at hRounded
    rw [value_dropZeros, value_eq hMantissa,
      value_eq (signed_natAbs a.mantissa).symm]
    split
    · rw [neg_div, roundedTo_neg, roundedTo_neg, hRounded]
    · exact hRounded

end Decimal

end Registrar
