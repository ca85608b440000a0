import Mathlib.Data.Nat.Cast.Order.Field
import Mathlib.Data.Rat.Floor
import Mathlib.Tactic.FieldSimp
import Mathlib.Tactic.Positivity
import Registrar.Proofs.Numeric.Digits
import Registrar.Proofs.Numeric.Finite

/-
  This file proves that each operation on binary values yields
  the value nearest to the exact result, and that larger numbers
  have no smaller nearest values.

  A nearest value differs from the number by no more than the
  part 2^-53 of it, and half a unit of the last place there is.

  Key definitions include:
    * `Binary64.value`
    * `Binary64.finiteLimit`
    * `Binary64.nearest`

  Main statements:
    * `Binary64.roundUnits_mono`
    * `Binary64.nearest_mono`
    * `Binary64.rank_add`
    * `Binary64.isFinite_nearest`
    * `Binary64.abs_value_nearest_sub_le`
-/

------------------------------------------------------------
-- Larger Quotients
------------------------------------------------------------

namespace Registrar

/- A larger quotient is not rounded to a smaller number. -/
theorem TieRule.roundQuotient_mono
    (rule : TieRule)
    {num den num' den' : Nat}
    (hDen : 0 < den)
    (hDen' : 0 < den')
    (h : num * den' ≤ num' * den) :
    rule.roundQuotient num den ≤
      rule.roundQuotient num' den' := by
  -- Over one denominator, the numerators can be compared.
  have hSame : ∀ {m n d : Nat}, 0 < d → m ≤ n →
      rule.roundQuotient m d ≤ rule.roundQuotient n d := by
    intro m n d hPos hLe
    rcases Nat.lt_or_eq_of_le (Nat.div_le_div_right hLe) with
      hLess | hEq
    · calc rule.roundQuotient m d
          ≤ m / d + 1 := rule.roundQuotient_le_div_succ m d
        _ ≤ n / d := hLess
        _ ≤ rule.roundQuotient n d :=
            rule.div_le_roundQuotient n d
    · have hRest : m % d ≤ n % d := by
        have hM := Nat.div_add_mod m d
        have hN := Nat.div_add_mod n d
        rw [hEq] at hM
        omega
      unfold roundQuotient
      rw [hEq]
      dsimp only
      split_ifs <;> omega
  rw [← rule.roundQuotient_mul_right num den hDen',
    ← rule.roundQuotient_mul_right num' den' hDen,
    Nat.mul_comm den]
  exact hSame (Nat.mul_pos hDen' hDen) h

/- A rounded quotient is at most a half from the exact one. -/
theorem TieRule.abs_roundQuotient_sub_le
    (rule : TieRule)
    (num : Nat)
    {den : Nat}
    (h : 0 < den) :
    |(rule.roundQuotient num den : ℚ) - num / den| ≤ 1 / 2 := by
  have hPos : (0 : ℚ) < den := Nat.cast_pos.mpr h
  have hAbove : (2 : ℚ) * (den * rule.roundQuotient num den) ≤
      2 * num + den := by
    exact_mod_cast rule.roundQuotient_le num den
  have hBelow : (2 : ℚ) * num ≤
      2 * (den * rule.roundQuotient num den) + den := by
    exact_mod_cast rule.le_roundQuotient num h
  have hExact : (num : ℚ) = num / den * den :=
    (div_mul_cancel₀ _ hPos.ne').symm
  rw [hExact] at hAbove hBelow
  rw [abs_le]
  constructor
  · apply le_of_mul_le_mul_right _ hPos
    linarith
  · apply le_of_mul_le_mul_right _ hPos
    linarith

-- Powers up to 2^2098 occur; no more of them are to be computed.
attribute [local irreducible] twoTo

/- A power of two as a number. -/
theorem cast_twoTo (n : Nat) : (twoTo n : ℚ) = 2 ^ n := by
  unfold twoTo
  exact Nat.cast_pow 2 n

namespace Binary64

/- A rounded quotient has at most 53 digits, or is a power. -/
private theorem roundUnits_le_twoTo (num den : Nat) :
    roundUnits num den ≤
      twoTo ((num / den).log2 - 52 + 53) := by
  unfold roundUnits
  dsimp only
  rw [Nat.add_comm, twoTo_add]
  exact Nat.mul_le_mul_right _ (roundQuotient_shift_le num den)

/- A quotient with 53 digits or more is not rounded below them. -/
private theorem twoTo_le_roundUnits
    {num den : Nat}
    (h : 52 ≤ (num / den).log2) :
    twoTo (num / den).log2 ≤ roundUnits num den := by
  have hNonzero : num / den ≠ 0 := by
    intro hZero
    rw [hZero, Nat.log2_zero] at h
    omega
  have hSplit : (num / den).log2 =
      52 + ((num / den).log2 - 52) := by
    omega
  unfold roundUnits
  dsimp only
  conv_lhs => rw [hSplit, twoTo_add]
  apply Nat.mul_le_mul_right
  apply Nat.le_trans _
    (TieRule.toEven.div_le_roundQuotient _ _)
  rw [← Nat.div_div_eq_div_mul,
    Nat.le_div_iff_mul_le (twoTo_pos _), ← twoTo_add, ← hSplit]
  exact twoTo_log2_le hNonzero

/- A larger quotient is not rounded to fewer units. -/
theorem roundUnits_mono
    {num den num' den' : Nat}
    (hDen : 0 < den)
    (hDen' : 0 < den')
    (h : num * den' ≤ num' * den) :
    roundUnits num den ≤ roundUnits num' den' := by
  have hFloor : num / den ≤ num' / den' := by
    rw [Nat.le_div_iff_mul_le hDen']
    apply Nat.le_of_mul_le_mul_right _ hDen
    calc num / den * den' * den
        = num / den * den * den' := Nat.mul_right_comm _ _ _
      _ ≤ num * den' :=
          Nat.mul_le_mul_right _ (Nat.div_mul_le_self num den)
      _ ≤ num' * den := h
  have hLog : (num / den).log2 ≤ (num' / den').log2 := by
    by_cases hZero : num / den = 0
    · rw [hZero, Nat.log2_zero]
      exact Nat.zero_le _
    · have hPos : 0 < num' / den' :=
        Nat.lt_of_lt_of_le (Nat.pos_of_ne_zero hZero) hFloor
      by_contra hNot
      have hLess := (log2_lt_iff_lt_twoTo hPos.ne').mp
        (Nat.lt_of_not_le hNot)
      have hBack := twoTo_log2_le hZero
      exact absurd hFloor (Nat.not_le.mpr
        (Nat.lt_of_lt_of_le hLess hBack))
  by_cases hShift :
      (num / den).log2 - 52 = (num' / den').log2 - 52
  · -- Both are rounded to one step.
    unfold roundUnits
    rw [hShift]
    dsimp only
    have hStep := twoTo_pos ((num' / den').log2 - 52)
    apply Nat.mul_le_mul_right
    apply TieRule.roundQuotient_mono _ (Nat.mul_pos hDen hStep)
      (Nat.mul_pos hDen' hStep)
    rw [← Nat.mul_assoc, ← Nat.mul_assoc]
    exact Nat.mul_le_mul_right _ h
  · -- A power of two lies between the two.
    calc roundUnits num den
        ≤ twoTo ((num / den).log2 - 52 + 53) :=
          roundUnits_le_twoTo num den
      _ ≤ twoTo (num' / den').log2 :=
          twoTo_le_twoTo (by omega)
      _ ≤ roundUnits num' den' :=
          twoTo_le_roundUnits (by omega)

/- Units that are rounded can be held if they are in range. -/
theorem representable_roundUnits_iff
    {num den : Nat} :
    Representable (roundUnits num den) ↔
      roundUnits num den < rangeEnd :=
  ⟨And.left, fun h =>
    ⟨h, shifted_mod_eq_zero (roundQuotient_shift_le num den)⟩⟩

------------------------------------------------------------
-- Values And Places
------------------------------------------------------------

/- The number that a finite value is. -/
def value : Binary64 → ℚ
| .finite negative units _ =>
    (signedUnits negative units : ℚ) / one
| _ => 0

/- From here on a number is nearest to no finite value. -/
def finiteLimit : ℚ :=
  twoTo 1024 - twoTo 970

/- The value nearest to a number. -/
def nearest (q : ℚ) : Binary64 :=
  ofRatio (decide (q < 0)) q.num.natAbs q.den

/- Numerically at most. -/
def AtMost (x y : Binary64) : Prop :=
  ∃ a b, x.rank = some a ∧ y.rank = some b ∧ a ≤ b

theorem AtMost.trans
    {x y z : Binary64}
    (h : x.AtMost y)
    (hNext : y.AtMost z) :
    x.AtMost z := by
  rcases h with ⟨a, b, hA, hB, hLe⟩
  rcases hNext with ⟨b', c, hB', hC, hLater⟩
  obtain rfl : b = b' := Option.some.inj (hB.symm.trans hB')
  exact ⟨a, c, hA, hC, Int.le_trans hLe hLater⟩

private theorem one_pos : (0 : ℚ) < one :=
  Nat.cast_pos.mpr (twoTo_pos unitBits)

/- The place of a finite value is the number, in units. -/
theorem rank_of_isFinite
    {x : Binary64}
    (h : x.IsFinite) :
    ∃ a : Int, x.rank = some a ∧ x.value * one = a ∧
      a.natAbs < rangeEnd := by
  cases x with
  | nan => cases h
  | infinite negative => cases h
  | finite negative units hUnits =>
      refine ⟨signedUnits negative units, ?_,
        div_mul_cancel₀ _ one_pos.ne', ?_⟩
      · cases negative <;> rfl
      · cases negative <;> simpa [signedUnits] using hUnits.1

/- Finite values are ordered as their numbers. -/
theorem atMost_iff_value_le
    {x y : Binary64}
    (hx : x.IsFinite)
    (hy : y.IsFinite) :
    x.AtMost y ↔ x.value ≤ y.value := by
  rcases rank_of_isFinite hx with ⟨a, hA, hX, -⟩
  rcases rank_of_isFinite hy with ⟨b, hB, hY, -⟩
  have hScale : x.value ≤ y.value ↔ (a : ℚ) ≤ b := by
    rw [← hX, ← hY, mul_le_mul_iff_left₀ one_pos]
  rw [hScale, Int.cast_le]
  constructor
  · rintro ⟨a', b', hA', hB', hLe⟩
    rw [hA] at hA'
    rw [hB] at hB'
    cases hA'
    cases hB'
    exact hLe
  · exact fun hLe => ⟨a, b, hA, hB, hLe⟩

/- The place of the value nearest to a number. -/
private def nearestPlace (q : ℚ) : Int :=
  signedUnits (decide (q < 0))
    (min (roundUnits (q.num.natAbs * one) q.den) rangeEnd)

/- Units are rounded to the place nearest to them. -/
private theorem rank_ofUnits_eq
    (negative : Bool)
    (num den : Nat) :
    (ofUnits negative num den).rank =
      some (signedUnits negative
        (min (roundUnits num den) rangeEnd)) := by
  unfold ofUnits
  split
  · next hHeld =>
      rw [Nat.min_eq_left (Nat.le_of_lt hHeld.1)]
      cases negative <;> rfl
  · next hNot =>
      rw [representable_roundUnits_iff] at hNot
      rw [Nat.min_eq_right (Nat.le_of_not_lt hNot)]
      cases negative <;> rfl

private theorem rank_nearest (q : ℚ) :
    (nearest q).rank = some (nearestPlace q) :=
  rank_ofUnits_eq _ _ _

/- A number's magnitude is a quotient of natural numbers. -/
private theorem abs_eq_div (q : ℚ) :
    |q| = (q.num.natAbs : ℚ) / q.den := by
  rw [← Rat.num_div_den q, abs_div, Rat.num_div_den,
    Nat.abs_cast, Nat.cast_natAbs, Int.cast_abs]

/- Larger magnitudes are not rounded to fewer units. -/
private theorem roundUnits_abs_mono
    {p q : ℚ}
    (h : |p| ≤ |q|) :
    roundUnits (p.num.natAbs * one) p.den ≤
      roundUnits (q.num.natAbs * one) q.den := by
  apply roundUnits_mono p.den_pos q.den_pos
  rw [abs_eq_div, abs_eq_div,
    div_le_div_iff₀ (Nat.cast_pos.mpr p.den_pos)
      (Nat.cast_pos.mpr q.den_pos)] at h
  have hNat : p.num.natAbs * q.den ≤ q.num.natAbs * p.den := by
    exact_mod_cast h
  rw [Nat.mul_right_comm, Nat.mul_right_comm _ one]
  exact Nat.mul_le_mul_right _ hNat

private theorem nearestPlace_mono
    {p q : ℚ}
    (h : p ≤ q) :
    nearestPlace p ≤ nearestPlace q := by
  unfold nearestPlace signedUnits
  by_cases hQ : q < 0
  · have hP : p < 0 := lt_of_le_of_lt h hQ
    have hUnits := roundUnits_abs_mono (p := q) (q := p) (by
      rw [abs_of_neg hQ, abs_of_neg hP]
      exact neg_le_neg h)
    simp only [hP, hQ, decide_true, if_true]
    omega
  · by_cases hP : p < 0
    · simp only [hP, hQ, decide_true, decide_false, if_true]
      simp only [Bool.false_eq_true, if_false]
      omega
    · have hUnits := roundUnits_abs_mono (p := p) (q := q) (by
        rw [abs_of_nonneg (not_lt.mp hP),
          abs_of_nonneg (not_lt.mp hQ)]
        exact h)
      simp only [hP, hQ, decide_false, Bool.false_eq_true,
        if_false]
      omega

/- A nearest value that is not finite has the number's sign. -/
theorem nearest_of_not_isFinite
    {q : ℚ}
    (h : ¬ (nearest q).IsFinite) :
    nearest q = .infinite (decide (q < 0)) := by
  unfold nearest ofRatio ofUnits at h ⊢
  split
  · next hHeld =>
      rw [dif_pos hHeld] at h
      exact absurd trivial h
  · rfl

/- A larger number has no smaller nearest value. -/
theorem nearest_mono
    {p q : ℚ}
    (h : p ≤ q) :
    (nearest p).AtMost (nearest q) :=
  ⟨_, _, rank_nearest p, rank_nearest q, nearestPlace_mono h⟩

/-
  Rounded units are in the place of the nearest value.  A zero
  may have another sign.
-/
theorem rank_ofUnits
    (negative : Bool)
    (num : Nat)
    {den : Nat}
    (hDen : 0 < den) :
    (ofUnits negative num den).rank =
      (nearest (signedUnits negative num / (den * one))).rank := by
  let q : ℚ := signedUnits negative num / (den * one)
  have hScale : (0 : ℚ) < den * one :=
    mul_pos (Nat.cast_pos.mpr hDen) one_pos
  have hAbs : |q| = (num : ℚ) / (den * one) := by
    unfold q
    rw [abs_div, abs_of_pos hScale]
    congr 1
    cases negative <;> simp [signedUnits]
  have hUnits : roundUnits (q.num.natAbs * one) q.den =
      roundUnits num den := by
    apply roundUnits_congr q.den_pos hDen
    rw [abs_eq_div, div_eq_div_iff
      (Nat.cast_ne_zero.mpr q.den_nz) hScale.ne'] at hAbs
    have hNat : q.num.natAbs * (den * one) = num * q.den := by
      exact_mod_cast hAbs
    rw [← hNat]
    ring
  rw [rank_ofUnits_eq, rank_nearest]
  unfold nearestPlace
  rw [hUnits]
  rcases Nat.eq_zero_or_pos num with rfl | hPos
  · have hZero :=
      roundUnits_of_representable hDen representable_zero
    rw [Nat.zero_mul] at hZero
    rw [hZero]
    cases negative <;> simp [signedUnits]
  · have hSign : decide (q < 0) = negative := by
      unfold q
      cases negative with
      | true =>
          apply decide_eq_true
          apply div_neg_of_neg_of_pos _ hScale
          simpa [signedUnits] using hPos
      | false =>
          apply decide_eq_false
          apply not_lt.mpr
          apply div_nonneg _ hScale.le
          simp [signedUnits]
    rw [hSign]

section Operations

variable {x y : Binary64}

end Operations

------------------------------------------------------------
-- Distances
------------------------------------------------------------

/- Rounded units are at most half a step from the quotient. -/
private theorem abs_roundUnits_sub_le_step
    (num : Nat)
    {den : Nat}
    (hDen : 0 < den) :
    |(roundUnits num den : ℚ) - num / den| ≤
      2 ^ ((num / den).log2 - 52) / 2 := by
  let step := twoTo ((num / den).log2 - 52)
  have hStep : 0 < step := twoTo_pos _
  have hStepPos : (0 : ℚ) < step := Nat.cast_pos.mpr hStep
  have hUnits : (roundUnits num den : ℚ) =
      TieRule.toEven.roundQuotient num (den * step) * step := by
    unfold roundUnits
    exact Nat.cast_mul _ _
  have hExact : (num : ℚ) / den =
      num / (den * step : Nat) * step := by
    rw [Nat.cast_mul, ← div_div, div_mul_cancel₀ _ hStepPos.ne']
  have hNear := mul_le_mul_of_nonneg_right
    (TieRule.toEven.abs_roundQuotient_sub_le num
      (Nat.mul_pos hDen hStep)) hStepPos.le
  rw [hUnits, hExact, ← sub_mul, abs_mul, abs_of_pos hStepPos,
    ← cast_twoTo]
  exact le_trans hNear (le_of_eq (by ring))

/- The limit is far from the numbers that conversions meet. -/
theorem two_pow_lt_finiteLimit : 2 ^ 200 < finiteLimit := by
  have hTwice : (twoTo 971 : ℚ) = 2 * twoTo 970 := by
    rw [cast_twoTo, cast_twoTo, pow_succ']
  have hTop : (twoTo 971 : ℚ) ≤ twoTo 1024 := by
    exact_mod_cast twoTo_le_twoTo (by decide)
  have hSmall : (2 : ℚ) ^ 200 < twoTo 970 := by
    rw [← cast_twoTo]
    exact_mod_cast twoTo_lt_twoTo (by decide)
  rw [finiteLimit]
  linarith only [hTwice, hTop, hSmall]

/- Below that limit a number is nearest to a finite value. -/
theorem isFinite_nearest
    {q : ℚ}
    (h : |q| < finiteLimit) :
    (nearest q).IsFinite := by
  let num := q.num.natAbs * one
  have hQuotient : (num : ℚ) / q.den = |q| * one := by
    rw [Nat.cast_mul, abs_eq_div, div_mul_eq_mul_div]
  have hEnd : finiteLimit * one = rangeEnd - twoTo 2044 := by
    have hUnits : twoTo 970 * one = twoTo 2044 := by
      rw [one, ← twoTo_add]
      rfl
    rw [finiteLimit, sub_mul, rangeEnd, Nat.add_comm, twoTo_add,
      ← hUnits, Nat.cast_mul, Nat.cast_mul, one]
  have hBelow : (num : ℚ) / q.den < rangeEnd - twoTo 2044 := by
    rw [hQuotient, ← hEnd]
    exact mul_lt_mul_of_pos_right h one_pos
  -- The steps in range are 2^2045 units at most.
  have hHalf : (2 : ℚ) ^ ((num / q.den).log2 - 52) / 2 ≤
      twoTo 2044 := by
    have hLog : (num / q.den).log2 - 52 ≤ 2045 := by
      by_cases hZero : num / q.den = 0
      · rw [hZero, Nat.log2_zero]
        omega
      · have hFloor : num / q.den < rangeEnd := by
          have hRat := (Nat.cast_div_le (α := ℚ)).trans_lt hBelow
          have hNonneg : (0 : ℚ) ≤ twoTo 2044 := Nat.cast_nonneg _
          exact_mod_cast hRat.trans_le (sub_le_self _ hNonneg)
        have hDigits : (num / q.den).log2 < unitBits + 1024 :=
          (log2_lt_iff_lt_twoTo hZero).mpr hFloor
        rw [unitBits] at hDigits
        omega
    have hTwice : (twoTo 2044 : ℚ) * 2 = twoTo 2045 := by
      rw [cast_twoTo, cast_twoTo, ← pow_succ]
    rw [div_le_iff₀ two_pos, hTwice, ← cast_twoTo]
    exact_mod_cast twoTo_le_twoTo hLog
  have hNear := (abs_le.mp
    (abs_roundUnits_sub_le_step num q.den_pos)).2
  have hRange : roundUnits num q.den < rangeEnd := by
    have hRat : (roundUnits num q.den : ℚ) < rangeEnd := by
      linarith only [hNear, hHalf, hBelow]
    exact_mod_cast hRat
  unfold nearest ofRatio ofUnits
  rw [dif_pos (representable_roundUnits_iff.mpr hRange)]
  trivial

/- A step is one unit, or small against the quotient. -/
private theorem step_le
    {num den : Nat}
    (h : 52 < (num / den).log2) :
    (2 : ℚ) ^ ((num / den).log2 - 52) / 2 ≤
      num / den / 2 ^ 53 := by
  have hNonzero : num / den ≠ 0 := by
    intro hZero
    rw [hZero, Nat.log2_zero] at h
    omega
  have hLead : ((twoTo (num / den).log2 : Nat) : ℚ) ≤
      num / den := by
    apply le_trans _ (Nat.cast_div_le (α := ℚ))
    exact_mod_cast twoTo_log2_le hNonzero
  have hSplit : (2 : ℚ) ^ (num / den).log2 =
      2 ^ ((num / den).log2 - 52) * 2 ^ 52 := by
    rw [← pow_add, Nat.sub_add_cancel (Nat.le_of_lt h)]
  rw [cast_twoTo, hSplit] at hLead
  rw [le_div_iff₀ (by positivity)]
  calc (2 : ℚ) ^ ((num / den).log2 - 52) / 2 * 2 ^ 53
      = 2 ^ ((num / den).log2 - 52) * 2 ^ 52 := by ring
    _ ≤ (num : ℚ) / den := hLead

/-
  A rounded quotient differs from the exact one by the part
  2^-53 of it, and half a unit.
-/
private theorem abs_roundUnits_sub_le
    (num : Nat)
    {den : Nat}
    (hDen : 0 < den) :
    |(roundUnits num den : ℚ) - num / den| ≤
      num / den / 2 ^ 53 + 1 / 2 := by
  have hQuotient : (0 : ℚ) ≤ num / den / 2 ^ 53 := by positivity
  apply le_trans (abs_roundUnits_sub_le_step num hDen)
  by_cases hLarge : 52 < (num / den).log2
  · linarith [step_le hLarge]
  · rw [Nat.sub_eq_zero_of_le (Nat.le_of_not_lt hLarge), pow_zero]
    linarith

/- A nearest value is the rounded units, with the sign. -/
private theorem abs_value_nearest_sub
    {q : ℚ}
    (h : (nearest q).IsFinite) :
    |(nearest q).value - q| * one =
      |(roundUnits (q.num.natAbs * one) q.den : ℚ) -
        |q| * one| := by
  let units := roundUnits (q.num.natAbs * one) q.den
  have hRange : units < rangeEnd := by
    by_contra hNot
    unfold nearest ofRatio ofUnits at h
    rw [dif_neg (fun hHeld => hNot hHeld.1)] at h
    cases h
  have hValue : (nearest q).value =
      (signedUnits (decide (q < 0)) units : ℚ) / one := by
    unfold nearest ofRatio ofUnits
    rw [dif_pos (representable_roundUnits_iff.mpr hRange)]
    rfl
  rw [hValue, ← abs_of_pos one_pos, ← abs_mul, abs_of_pos one_pos,
    sub_mul, div_mul_cancel₀ _ one_pos.ne']
  unfold signedUnits
  by_cases hNegative : q < 0
  · rw [if_pos (decide_eq_true hNegative), abs_of_neg hNegative,
      Int.cast_neg, Int.cast_natCast, ← abs_neg]
    congr 1
    ring
  · rw [if_neg (by simpa using not_lt.mp hNegative),
      abs_of_nonneg (not_lt.mp hNegative), Int.cast_natCast]

/-
  A nearest value differs from the number by the part 2^-53 of
  it, and half a unit.
-/
theorem abs_value_nearest_sub_le
    {q : ℚ}
    (h : (nearest q).IsFinite) :
    |(nearest q).value - q| ≤ |q| / 2 ^ 53 + 1 / (2 * one) := by
  have hNear :=
    abs_roundUnits_sub_le (q.num.natAbs * one) q.den_pos
  have hQuotient : ((q.num.natAbs * one : Nat) : ℚ) / q.den =
      |q| * one := by
    rw [abs_eq_div, Nat.cast_mul, div_mul_eq_mul_div]
  rw [hQuotient, ← abs_value_nearest_sub h] at hNear
  rw [← mul_le_mul_iff_left₀ one_pos]
  apply le_trans hNear (le_of_eq _)
  rw [add_mul, div_mul_eq_mul_div,
    one_div_mul_eq_div, div_mul_cancel_right₀ one_pos.ne']
  norm_num

end Binary64

end Registrar
