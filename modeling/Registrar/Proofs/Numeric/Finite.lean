import Registrar.Answer.Total

/-
  This file proves which operations on binary values stay in
  range, and that totals are numbers.

  A value rounded from a quotient below 2^1022 is finite, so
  that whole numbers of a document and counts are.  A total of
  finite values may leave the range, but sums and quotients of
  it never meet two infinities, and hence none of them is NaN.

  Main statements:
    * `Binary64.representable_roundUnits`
    * `Binary64.isFinite_ofInt`
    * `Binary64.isDivisor_ofNat`
    * `Total.not_isNan_rounded`
    * `Total.not_isNan_approximate_ofList`
    * `Total.not_isNan_approximate_divideBy`
-/

------------------------------------------------------------
-- Small Powers
------------------------------------------------------------

namespace Registrar

variable {retry : Decimal.Conversion}

private theorem tenTo_placesLimit_lt :
    tenTo Decimal.placesLimit < twoTo 100 := by
  decide

private theorem mantissaLimit_lt_twoTo_97 :
    Decimal.mantissaLimit < twoTo 97 := by
  decide

private theorem tenTo_resultPlaces_lt :
    tenTo Total.resultPlaces < twoTo 7 := by
  decide

------------------------------------------------------------
-- Values In Range
------------------------------------------------------------

-- Powers up to 2^2098 occur; none of them is to be computed.
attribute [local irreducible] twoTo

namespace Binary64

/- At most 53 digits, shifted, are followed by zeros. -/
theorem shifted_mod_eq_zero
    {mantissa shift : Nat}
    (hMantissa : mantissa ≤ twoTo 53) :
    (mantissa * twoTo shift) %
        twoTo ((mantissa * twoTo shift).log2 - 52) =
      0 := by
  have hLe :
      mantissa * twoTo shift ≤ twoTo (53 + shift) := by
    rw [twoTo_add]
    exact Nat.mul_le_mul_right (twoTo shift) hMantissa
  apply Nat.mod_eq_zero_of_dvd
  rcases Nat.lt_or_eq_of_le hLe with hLess | hEq
  · have hLog :
        (mantissa * twoTo shift).log2 - 52 ≤ shift := by
      by_cases hZero : mantissa * twoTo shift = 0
      · rw [hZero, Nat.log2_zero]
        exact Nat.zero_le _
      · have := (log2_lt_iff_lt_twoTo hZero).mpr hLess
        omega
    exact Nat.dvd_trans (twoTo_dvd_twoTo hLog)
      (Nat.dvd_mul_left _ _)
  · rw [hEq, log2_twoTo]
    apply twoTo_dvd_twoTo
    omega

/- At most 53 digits, shifted within the range, can be held. -/
theorem representable_shifted
    {mantissa shift : Nat}
    (hMantissa : mantissa ≤ twoTo 53)
    (hShift : shift ≤ 2044) :
    Representable (mantissa * twoTo shift) := by
  refine ⟨?_, shifted_mod_eq_zero hMantissa⟩
  calc mantissa * twoTo shift
      ≤ twoTo 53 * twoTo shift :=
        Nat.mul_le_mul_right (twoTo shift) hMantissa
    _ = twoTo (53 + shift) := (twoTo_add 53 shift).symm
    _ < rangeEnd := by
        apply twoTo_lt_twoTo
        unfold unitBits
        omega

/- The leading digits of a number are at most 53. -/
theorem div_shift_lt (n : Nat) :
    n / twoTo (n.log2 - 52) < twoTo 53 := by
  apply Nat.div_lt_of_lt_mul
  apply Nat.lt_of_lt_of_le (lt_twoTo_log2_succ n)
  rw [← twoTo_add]
  apply twoTo_le_twoTo
  omega

/- A quotient is rounded to 53 digits, or to the next power. -/
theorem roundQuotient_shift_le (num den : Nat) :
    TieRule.toEven.roundQuotient num
        (den * twoTo ((num / den).log2 - 52)) ≤
      twoTo 53 := by
  apply Nat.le_trans
    (TieRule.toEven.roundQuotient_le_div_succ _ _)
  rw [← Nat.div_div_eq_div_mul]
  exact div_shift_lt (num / den)

/- A quotient in range is rounded to a value in range. -/
theorem representable_roundUnits
    {num den : Nat}
    (h : num / den < twoTo 2096) :
    Representable (roundUnits num den) := by
  have hLog : (num / den).log2 < 2096 := by
    by_cases hZero : num / den = 0
    · rw [hZero, Nat.log2_zero]
      omega
    · exact (log2_lt_iff_lt_twoTo hZero).mpr h
  exact representable_shifted (roundQuotient_shift_le num den)
    (by omega)

/- A quotient of one or more is not rounded to zero. -/
theorem roundUnits_pos
    {num den : Nat}
    (h : 0 < num / den) :
    0 < roundUnits num den := by
  have hStep :
      twoTo ((num / den).log2 - 52) ≤ num / den := by
    apply Nat.le_trans _ (twoTo_log2_le (Nat.ne_of_gt h))
    exact twoTo_le_twoTo (Nat.sub_le _ _)
  apply Nat.mul_pos _ (twoTo_pos _)
  apply Nat.lt_of_lt_of_le _
    (TieRule.toEven.div_le_roundQuotient _ _)
  rw [← Nat.div_div_eq_div_mul]
  exact Nat.div_pos hStep (twoTo_pos _)

/- A quotient in range is rounded to a finite value. -/
theorem isFinite_ofUnits
    (negative : Bool)
    {num den : Nat}
    (h : num / den < twoTo 2096) :
    (ofUnits negative num den).IsFinite := by
  unfold ofUnits
  rw [dif_pos (representable_roundUnits h)]
  trivial

private theorem mul_one_lt
    {n : Nat}
    (h : n < twoTo 1022) :
    n * one / 1 < twoTo 2096 := by
  rw [Nat.div_one]
  have hMul := Nat.mul_lt_mul_of_pos_right h
    (twoTo_pos unitBits)
  apply Nat.lt_of_lt_of_le hMul
  rw [← twoTo_add]
  exact twoTo_le_twoTo (by decide)

/- Whole numbers below 2^1022 have finite values. -/
theorem isFinite_ofInt
    {n : Int}
    (h : n.natAbs < twoTo 1022) :
    (ofInt n).IsFinite :=
  isFinite_ofUnits _ (mul_one_lt h)

/- Natural numbers below 2^1022 have finite values. -/
theorem isFinite_ofNat
    {n : Nat}
    (h : n < twoTo 1022) :
    (ofNat n).IsFinite :=
  isFinite_ofUnits _ (mul_one_lt h)

/- A finite value other than zero. -/
def IsDivisor : Binary64 → Prop
| .finite _ units _ => units ≠ 0
| _ => False

/- Counts other than zero can be divided by. -/
theorem isDivisor_ofNat
    {n : Nat}
    (hPos : 0 < n)
    (h : n < twoTo 1022) :
    (ofNat n).IsDivisor := by
  have hUnits : 0 < roundUnits (n * one) 1 := by
    apply roundUnits_pos
    rw [Nat.div_one]
    exact Nat.mul_pos hPos (twoTo_pos unitBits)
  unfold ofNat ofRatio ofUnits
  rw [dif_pos (representable_roundUnits (mul_one_lt h))]
  exact Nat.ne_of_gt hUnits

------------------------------------------------------------
-- Operations That Yield Numbers
------------------------------------------------------------

/- A finite value is a number. -/
theorem IsFinite.not_isNan
    {x : Binary64}
    (h : x.IsFinite) :
    ¬ x.IsNan := by
  cases x with
  | finite negative units hUnits => exact not_false
  | nan negative fraction hFraction => exact h.elim
  | infinite negative => exact h.elim

/- Rounding yields a number. -/
theorem not_isNan_ofUnits
    (negative : Bool)
    (num den : Nat) :
    ¬ (ofUnits negative num den).IsNan := by
  unfold ofUnits
  split <;> exact not_false

/- A natural number has a value that is a number. -/
theorem not_isNan_ofNat (n : Nat) : ¬ (ofNat n).IsNan :=
  not_isNan_ofUnits _ _ _

/- Adding a finite value to a number yields a number. -/
theorem not_isNan_add
    {x y : Binary64}
    (hx : ¬ x.IsNan)
    (hy : y.IsFinite) :
    ¬ (x.add y).IsNan := by
  cases y with
  | nan => exact hy.elim
  | infinite t => exact hy.elim
  | finite t b hb =>
      cases x with
      | nan => exact absurd trivial hx
      | infinite s => exact not_false
      | finite s a ha => exact not_isNan_ofUnits _ _ _

/- Adding a number to a finite value yields a number. -/
theorem not_isNan_finite_add
    {x y : Binary64}
    (hx : x.IsFinite)
    (hy : ¬ y.IsNan) :
    ¬ (x.add y).IsNan := by
  cases x with
  | nan => exact hx.elim
  | infinite s => exact hx.elim
  | finite s a ha =>
      cases y with
      | nan => exact absurd trivial hy
      | infinite t => exact not_false
      | finite t b hb => exact not_isNan_ofUnits _ _ _

/- A number times a finite value other than zero is one. -/
theorem not_isNan_mul
    {x y : Binary64}
    (hx : ¬ x.IsNan)
    (hy : y.IsDivisor) :
    ¬ (x.mul y).IsNan := by
  cases y with
  | nan => exact hy.elim
  | infinite t => exact hy.elim
  | finite t b hb =>
      have hNonzero : b ≠ 0 := hy
      cases x with
      | nan => exact absurd trivial hx
      | infinite s => simp [mul, hNonzero, IsNan]
      | finite s a ha => exact not_isNan_ofUnits _ _ _

/- A number over a finite value other than zero is one. -/
theorem not_isNan_div
    {x y : Binary64}
    (hx : ¬ x.IsNan)
    (hy : y.IsDivisor) :
    ¬ (x.div y).IsNan := by
  cases y with
  | nan => exact hy.elim
  | infinite t => exact hy.elim
  | finite t b hb =>
      have hNonzero : b ≠ 0 := hy
      cases x with
      | nan => exact absurd trivial hx
      | infinite s => exact not_false
      | finite s a ha =>
          simp only [div, hNonzero, if_false]
          exact not_isNan_ofUnits _ _ _

/- Rounding a number to a whole one yields a number. -/
theorem not_isNan_roundWhole
    {x : Binary64}
    (hx : ¬ x.IsNan) :
    ¬ x.roundWhole.IsNan := by
  cases x with
  | nan => exact absurd trivial hx
  | infinite s => exact not_false
  | finite s a ha => exact not_isNan_ofUnits _ _ _

/- A number with its sign turned is a number. -/
theorem not_isNan_negate
    {x : Binary64}
    (hx : ¬ x.IsNan) :
    ¬ x.negate.IsNan := by
  cases x with
  | nan => exact absurd trivial hx
  | infinite s => exact not_false
  | finite s a ha => exact not_false

end Binary64

------------------------------------------------------------
-- Decimals
------------------------------------------------------------

namespace Decimal

private theorem tenTo_lt
    {places : Nat}
    (h : places ≤ placesLimit) :
    tenTo places < twoTo 1022 := by
  apply Nat.lt_of_le_of_lt (tenTo_le_tenTo h)
  apply Nat.lt_trans tenTo_placesLimit_lt
  exact twoTo_lt_twoTo (by decide)

private theorem mantissaLimit_lt :
    mantissaLimit < twoTo 1022 := by
  apply Nat.lt_trans mantissaLimit_lt_twoTo_97
  exact twoTo_lt_twoTo (by decide)

/- The value of a decimal is a number. -/
theorem not_isNan_toBinary64 (a : Decimal) :
    ¬ a.toBinary64.IsNan := by
  have hScale :
      (Binary64.ofNat (tenTo a.places)).IsDivisor :=
    Binary64.isDivisor_ofNat (tenTo_pos _)
      (tenTo_lt a.places_le)
  have hWhole :
      (Binary64.ofNat
        (a.mantissa.natAbs / tenTo a.places)).IsFinite := by
    apply Binary64.isFinite_ofNat
    apply Nat.lt_of_le_of_lt (Nat.div_le_self _ _)
    exact Nat.lt_of_le_of_lt a.mantissa_le mantissaLimit_lt
  have hMagnitude :
      ¬ (magnitudeToBinary64 a.mantissa.natAbs
        a.places).IsNan := by
    unfold magnitudeToBinary64
    dsimp only
    split
    · exact hWhole.not_isNan
    · apply Binary64.not_isNan_div _ hScale
      apply Binary64.not_isNan_roundWhole
      apply Binary64.not_isNan_mul _ hScale
      apply Binary64.not_isNan_finite_add hWhole
      apply Binary64.not_isNan_div _ hScale
      exact Binary64.not_isNan_ofUnits _ _ _
  unfold toBinary64
  dsimp only
  split
  · exact Binary64.not_isNan_negate hMagnitude
  · exact hMagnitude

end Decimal

------------------------------------------------------------
-- Totals
------------------------------------------------------------

namespace Total

private theorem isDivisor_hundred : hundred.IsDivisor :=
  Binary64.isDivisor_ofNat (by decide)
    (Nat.lt_trans tenTo_resultPlaces_lt
      (twoTo_lt_twoTo (by decide)))

/- A number rounded to two places is a number. -/
theorem not_isNan_roundBinary
    {x : Binary64}
    (hx : ¬ x.IsNan) :
    ¬ (roundBinary x).IsNan := by
  unfold roundBinary
  split
  · apply Binary64.not_isNan_div _ isDivisor_hundred
    apply Binary64.not_isNan_roundWhole
    exact Binary64.not_isNan_mul hx isDivisor_hundred
  · exact hx

/- A total is shown as a number if its binary value is one. -/
theorem not_isNan_rounded
    {total : Total}
    (h : ¬ total.approximate.IsNan) :
    ¬ total.rounded.IsNan := by
  unfold rounded
  split
  · exact Decimal.not_isNan_toBinary64 _
  · exact not_isNan_roundBinary h

/-
  The binary value of a sum is a number: once it has left the
  range it stays there, since only finite values are added.
-/
theorem not_isNan_approximate_ofList
    {xs : List Binary64}
    (h : ∀ x ∈ xs, x.IsFinite) :
    ¬ (ofList retry xs).approximate.IsNan := by
  have hRun :
      ∀ (rest : List Binary64) (total : Total),
        (∀ x ∈ rest, x.IsFinite) →
        ¬ total.approximate.IsNan →
          ¬ (rest.foldl (add retry) total).approximate.IsNan := by
    intro rest
    induction rest with
    | nil => exact fun _ _ hTotal => hTotal
    | cons x rest ih =>
        intro total hRest hTotal
        apply ih (total.add retry x)
        · exact fun y hy => hRest y (List.mem_cons_of_mem x hy)
        · exact Binary64.not_isNan_add hTotal
            (hRest x List.mem_cons_self)
  have hZero : ¬ zero.approximate.IsNan := not_false
  exact hRun xs zero h hZero

/- The mean of a total is a number if the total is one. -/
theorem not_isNan_approximate_divideBy
    {total : Total}
    {count : Nat}
    (hTotal : ¬ total.approximate.IsNan)
    (hPos : 0 < count)
    (hCount : count < twoTo 64) :
    ¬ (total.divideBy count).approximate.IsNan := by
  apply Binary64.not_isNan_div hTotal
  apply Binary64.isDivisor_ofNat hPos
  exact Nat.lt_trans hCount (twoTo_lt_twoTo (by decide))

end Total

end Registrar
