import Registrar.Data.Value

/-
  This file proves that the bits of a value tell numbers apart
  as their sizes do: two values other than NaN have the same
  identity if and only if they are numerically equal.

  Main statements:
    * `Binary64.magnitudeBits_injective`
    * `Value.identity_number_eq_iff`
-/

------------------------------------------------------------
-- Encoded Magnitudes
------------------------------------------------------------

namespace Registrar

private theorem twoTo_53 : twoTo 53 = 2 * twoTo 52 :=
  twoTo_add 1 52

private theorem twoTo_63 : twoTo 63 = 2048 * twoTo 52 :=
  twoTo_add 11 52

-- Powers up to 2^2098 occur; none of them is to be computed.
attribute [local irreducible] twoTo

namespace Binary64

/- The digits after the first 53 of some units are zero. -/
def IsExact (units : Nat) : Prop :=
  units ≤ rangeEnd ∧ units % twoTo (units.log2 - 52) = 0

private theorem Representable.isExact
    {units : Nat}
    (h : Representable units) :
    IsExact units :=
  ⟨Nat.le_of_lt h.1, h.2⟩

private theorem isExact_rangeEnd : IsExact rangeEnd := by
  refine ⟨Nat.le_refl _, ?_⟩
  unfold rangeEnd
  rw [log2_twoTo]
  apply Nat.mod_eq_zero_of_dvd
  exact twoTo_dvd_twoTo (Nat.sub_le _ _)

private theorem leadingDigits_lt (units : Nat) :
    units / twoTo (units.log2 - 52) < twoTo 53 := by
  apply Nat.div_lt_of_lt_mul
  apply Nat.lt_of_lt_of_le (lt_twoTo_log2_succ units)
  rw [← twoTo_add]
  apply twoTo_le_twoTo
  omega

private theorem le_leadingDigits
    {units : Nat}
    (h : 0 < units.log2 - 52) :
    twoTo 52 ≤ units / twoTo (units.log2 - 52) := by
  have hNonzero : units ≠ 0 := by
    rintro rfl
    rw [Nat.log2_zero] at h
    omega
  rw [Nat.le_div_iff_mul_le (twoTo_pos _), ← twoTo_add]
  apply Nat.le_trans _ (twoTo_log2_le hNonzero)
  apply twoTo_le_twoTo
  omega

/- A shift and leading digits are read off the encoding. -/
private theorem encoding_injective
    {s t p q : Nat}
    (hp : p < twoTo 53)
    (hq : q < twoTo 53)
    (hs : 0 < s → twoTo 52 ≤ p)
    (ht : 0 < t → twoTo 52 ≤ q)
    (h : s * twoTo 52 + p = t * twoTo 52 + q) :
    s = t ∧ p = q := by
  rw [twoTo_53] at hp hq
  have hShift : s = t := by
    rcases Nat.lt_trichotomy s t with hLess | hEq | hLess
    · have hMul := Nat.mul_le_mul_right (twoTo 52) hLess
      rw [Nat.succ_mul] at hMul
      have := ht (Nat.zero_lt_of_lt hLess)
      omega
    · exact hEq
    · have hMul := Nat.mul_le_mul_right (twoTo 52) hLess
      rw [Nat.succ_mul] at hMul
      have := hs (Nat.zero_lt_of_lt hLess)
      omega
  subst hShift
  exact ⟨rfl, Nat.add_left_cancel h⟩

/- Units are read off their encoding. -/
theorem magnitudeBits_injective
    {a b : Nat}
    (ha : IsExact a)
    (hb : IsExact b)
    (h : magnitudeBits a = magnitudeBits b) :
    a = b := by
  rcases encoding_injective (leadingDigits_lt a)
      (leadingDigits_lt b) le_leadingDigits le_leadingDigits h with
    ⟨hShift, hDigits⟩
  have hA := Nat.div_add_mod a (twoTo (a.log2 - 52))
  have hB := Nat.div_add_mod b (twoTo (b.log2 - 52))
  rw [ha.2] at hA
  rw [hb.2] at hB
  rw [← hA, ← hB, hDigits, hShift]

/- Only zero is encoded as zero. -/
theorem magnitudeBits_eq_zero_iff {units : Nat} :
    magnitudeBits units = 0 ↔ units = 0 := by
  constructor
  · intro h
    have hZero : magnitudeBits 0 = 0 := by
      simp [magnitudeBits]
    rcases encoding_injective (leadingDigits_lt units)
        (leadingDigits_lt 0) le_leadingDigits
        le_leadingDigits (h.trans hZero.symm) with
      ⟨hShift, hDigits⟩
    have hSum := Nat.div_add_mod units
      (twoTo (units.log2 - 52))
    rw [Nat.log2_zero] at hShift
    rw [hShift, Nat.zero_sub] at hDigits hSum
    rw [hDigits, Nat.zero_div, Nat.mul_zero, Nat.zero_add]
      at hSum
    rw [twoTo_zero, Nat.mod_one] at hSum
    exact hSum.symm
  · rintro rfl
    simp [magnitudeBits]

/- The encoding leaves the sign bit free. -/
theorem magnitudeBits_lt
    {units : Nat}
    (h : units ≤ rangeEnd) :
    magnitudeBits units < twoTo 63 := by
  have hLog : units.log2 ≤ 2098 := by
    by_cases hZero : units = 0
    · rw [hZero, Nat.log2_zero]
      omega
    · apply Nat.le_of_lt_succ
      apply (log2_lt_iff_lt_twoTo hZero).mpr
      apply Nat.lt_of_le_of_lt h
      apply twoTo_lt_twoTo
      unfold unitBits
      omega
  have hDigits := leadingDigits_lt units
  have hMul :
      (units.log2 - 52) * twoTo 52 ≤ 2046 * twoTo 52 :=
    Nat.mul_le_mul_right _ (by omega)
  unfold magnitudeBits fractionBits
  rw [twoTo_53] at hDigits
  rw [twoTo_63]
  dsimp only
  omega

------------------------------------------------------------
-- Encoded Values
------------------------------------------------------------

/-
  A value other than NaN is a sign and exact units: both its
  bits and its place on the number line are given by them.
-/
theorem exists_sign_units
    {x : Binary64}
    (h : ¬ x.IsNan) :
    ∃ negative units, IsExact units ∧
      x.bits = signBit negative + magnitudeBits units ∧
      x.rank =
        some (if negative then -(units : Int) else units) := by
  cases x with
  | nan => exact absurd trivial h
  | infinite negative =>
      refine ⟨negative, rangeEnd, isExact_rangeEnd, rfl, ?_⟩
      cases negative <;> rfl
  | finite negative units hUnits =>
      refine ⟨negative, units, hUnits.isExact, rfl, ?_⟩
      cases negative <;> rfl

/- Numbers are numerically equal if they share a place. -/
theorem isSame_iff_rank_eq
    {x y : Binary64}
    (hx : ¬ x.IsNan) :
    x.isSame y = true ↔ x.rank = y.rank := by
  rcases exists_sign_units hx with ⟨s, a, -, -, hRank⟩
  unfold isSame compare?
  rw [hRank]
  cases y.rank with
  | none => simp
  | some b => simp

/- What is not NaN has a place. -/
theorem exists_rank_iff
    {x : Binary64} :
    (∃ place, x.rank = some place) ↔ ¬ x.IsNan := by
  cases x with
  | nan negative fraction h => simp [rank, IsNan]
  | infinite negative => cases negative <;> simp [rank, IsNan]
  | finite negative units h =>
      cases negative <;> simp [rank, IsNan]

/- Numerically equal numbers are in one place. -/
theorem isSame_iff_exists_rank
    {x y : Binary64} :
    x.isSame y = true ↔
      ∃ place, x.rank = some place ∧ y.rank = some place := by
  by_cases hx : x.IsNan
  · have hRank : x.rank = none := by
      rw [Option.eq_none_iff_forall_not_mem]
      exact fun place hPlace => exists_rank_iff.mp ⟨place, hPlace⟩ hx
    simp [isSame, compare?, hRank]
  · rcases exists_rank_iff.mpr hx with ⟨place, hRank⟩
    rw [isSame_iff_rank_eq hx, hRank]
    constructor
    · exact fun h => ⟨place, rfl, h.symm⟩
    · rintro ⟨other, hEq, hOther⟩
      rw [hEq, hOther]

/- The sign and the units are read off the bits. -/
theorem encoded_eq_iff
    {s t : Bool}
    {a b : Nat}
    (ha : IsExact a)
    (hb : IsExact b) :
    signBit s + magnitudeBits a =
        signBit t + magnitudeBits b ↔
      s = t ∧ a = b := by
  constructor
  · intro h
    have hA := magnitudeBits_lt ha.1
    have hB := magnitudeBits_lt hb.1
    have hParts :
        s = t ∧ magnitudeBits a = magnitudeBits b := by
      unfold signBit at h
      cases s <;> cases t <;> simp at h ⊢ <;> omega
    exact ⟨hParts.1, magnitudeBits_injective ha hb hParts.2⟩
  · rintro ⟨rfl, rfl⟩
    rfl

/- The sign and the units are read off the number line. -/
theorem placed_eq_iff
    {s t : Bool}
    {a b : Nat}
    (ha : a ≠ 0) :
    (if s then -(a : Int) else a) =
        (if t then -(b : Int) else b) ↔
      s = t ∧ a = b := by
  cases s <;> cases t <;> simp <;> omega

end Binary64

namespace Value

open Binary64

/- The identity of zero is shared by nothing but zero. -/
private theorem identity_number_of_units
    {x : Binary64}
    {negative : Bool}
    {units : Nat}
    (hRank : x.rank =
      some (if negative then -(units : Int) else units)) :
    (Value.number x).identity =
      if units = 0 then .number 0 else .number x.bits := by
  have hZero : Binary64.zero.rank = some 0 := rfl
  have hSame :
      x.isSame Binary64.zero = true ↔ units = 0 := by
    unfold isSame compare?
    rw [hRank, hZero]
    cases negative <;> simp
  unfold identity
  simp only [hSame]

/-
  Two values other than NaN have the same identity if and only
  if they are numerically equal.
-/
theorem identity_number_eq_iff
    {x y : Binary64}
    (hx : ¬ x.IsNan)
    (hy : ¬ y.IsNan) :
    (Value.number x).identity = (Value.number y).identity ↔
      x.isSame y = true := by
  rcases exists_sign_units hx with ⟨s, a, ha, hBitsX, hRankX⟩
  rcases exists_sign_units hy with ⟨t, b, hb, hBitsY, hRankY⟩
  rw [isSame_iff_rank_eq hx, identity_number_of_units hRankX,
    identity_number_of_units hRankY, hRankX, hRankY,
    Option.some.injEq]
  by_cases hA : a = 0 <;> by_cases hB : b = 0
  · simp [hA, hB]
  · have hBits := mt magnitudeBits_eq_zero_iff.mp hB
    rw [if_pos hA, if_neg hB, hBitsY, Identity.number.injEq,
      eq_comm, eq_comm (a := ite _ _ _), placed_eq_iff hB]
    constructor
    · intro h
      exact absurd (Nat.eq_zero_of_add_eq_zero_left h) hBits
    · rintro ⟨-, h⟩
      exact absurd (h.trans hA) hB
  · have hBits := mt magnitudeBits_eq_zero_iff.mp hA
    rw [if_neg hA, if_pos hB, hBitsX, Identity.number.injEq,
      placed_eq_iff hA]
    constructor
    · intro h
      exact absurd (Nat.eq_zero_of_add_eq_zero_left h) hBits
    · rintro ⟨-, h⟩
      exact absurd (h.trans hB) hA
  · rw [if_neg hA, if_neg hB, hBitsX, hBitsY,
      Identity.number.injEq, encoded_eq_iff ha hb,
      placed_eq_iff hA]

end Value

end Registrar
