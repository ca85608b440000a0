import Registrar.Proofs.Numeric.Written

/-
  This file proves how many digits are written for a binary
  value.  A grid on which neighbours are closer than half a step
  of binary values has a number that reads back to the value, so
  that the search stops no more than one grid behind the first
  such one, with a significand below 2 * 10^17.

  Key definitions include:
    * `Binary64.IsFine`

  Main statements:
    * `Binary64.roundUnits_of_close`
    * `Binary64.readsBackTo_of_isFine`
    * `Binary64.significand_shortest_lt`
    * `Binary64.significand_numeral_lt`
-/

------------------------------------------------------------
-- Numbers Close To A Value
------------------------------------------------------------

namespace Registrar

private theorem twoTo_succ (n : Nat) :
    twoTo (n + 1) = 2 * twoTo n :=
  Nat.pow_succ'

private theorem tenTo_succ (n : Nat) :
    tenTo (n + 1) = 10 * tenTo n :=
  Nat.pow_succ'

private theorem twoTo_mul (m n : Nat) :
    twoTo (m * n) = twoTo m ^ n :=
  Nat.pow_mul 2 m n

private theorem tenTo_mul (m n : Nat) :
    tenTo (m * n) = tenTo m ^ n :=
  Nat.pow_mul 10 m n

private theorem tenTo_lt_tenTo
    {m n : Nat}
    (h : m < n) :
    tenTo m < tenTo n :=
  Nat.pow_lt_pow_right (by decide) h

private theorem powers_ordered :
    twoTo 53 ≤ tenTo 16 ∧ twoTo 54 < tenTo 17 := by
  decide

private theorem significandLimit :
    10 * (2 * twoTo 53) + 1 < 2 * tenTo 17 := by
  decide

-- Powers of many digits occur; no tactic is to compute them.
attribute [local irreducible] twoTo fiveTo tenTo

namespace Binary64

/- The next multiple of their step has no more binary digits. -/
private theorem add_step_le
    {units : Nat}
    (hUnits : twoTo (units.log2 - 52) ∣ units) :
    units + twoTo (units.log2 - 52) ≤ twoTo (units.log2 + 1) := by
  have hLess := lt_twoTo_log2_succ units
  have hDvd : twoTo (units.log2 - 52) ∣ twoTo (units.log2 + 1) :=
    twoTo_dvd_twoTo (by omega)
  rcases hUnits with ⟨a, hA⟩
  rcases hDvd with ⟨b, hB⟩
  have hCount : a + 1 ≤ b := by
    apply Nat.lt_of_mul_lt_mul_left
    rw [← hB]
    exact hA ▸ hLess
  calc units + twoTo (units.log2 - 52)
      = twoTo (units.log2 - 52) * (a + 1) := by
        rw [Nat.mul_succ, ← hA]
    _ ≤ twoTo (units.log2 - 52) * b :=
        Nat.mul_le_mul_left _ hCount
    _ = twoTo (units.log2 + 1) := hB.symm

section Close

variable {num den units : Nat}

/-
  A quotient close to some units has as many binary digits, or
  one fewer.
-/
private theorem log2_div_of_close
    (hDen : 0 < den)
    (hNonzero : units ≠ 0)
    (hUnits : twoTo (units.log2 - 52) ∣ units)
    (hAbove : 4 * num <
      4 * (den * units) + den * twoTo (units.log2 - 52))
    (hBelow : 4 * (den * units) <
      4 * num + den * twoTo (units.log2 - 52)) :
    units.log2 - 1 ≤ (num / den).log2 ∧
      (num / den).log2 ≤ units.log2 := by
  constructor
  · rcases Nat.eq_zero_or_pos units.log2 with hZero | hPos
    · omega
    · have hHalf : twoTo units.log2 =
          2 * twoTo (units.log2 - 1) := by
        rw [← twoTo_succ, Nat.sub_add_cancel hPos]
      have hStep : twoTo (units.log2 - 52) ≤ twoTo units.log2 :=
        twoTo_le_twoTo (Nat.sub_le _ _)
      have hFloor : twoTo (units.log2 - 1) ≤ num / den := by
        rw [Nat.le_div_iff_mul_le hDen, Nat.mul_comm]
        have hScaled :=
          Nat.mul_le_mul_left den (twoTo_log2_le hNonzero)
        have hScaledStep := Nat.mul_le_mul_left den hStep
        rw [hHalf, Nat.mul_left_comm] at hScaled hScaledStep
        omega
      have hSome : num / den ≠ 0 :=
        (Nat.lt_of_lt_of_le (twoTo_pos _) hFloor).ne'
      by_contra hNot
      have hLess := (log2_lt_iff_lt_twoTo hSome).mp
        (Nat.lt_of_not_le hNot)
      exact absurd hFloor (Nat.not_le.mpr hLess)
  · by_cases hZero : num / den = 0
    · rw [hZero, Nat.log2_zero]
      exact Nat.zero_le _
    · have hUpper : num / den < twoTo (units.log2 + 1) := by
        apply Nat.div_lt_of_lt_mul
        have hScaled :=
          Nat.mul_le_mul_left den (add_step_le hUnits)
        rw [Nat.mul_add] at hScaled
        omega
      have hLess := (log2_lt_iff_lt_twoTo hZero).mpr hUpper
      omega

/- A quotient within half a unit of a number is rounded to it. -/
private theorem roundQuotient_of_close
    {rule : TieRule}
    {count : Nat}
    (hDen : 0 < den)
    (hAbove : 2 * num < 2 * (den * count) + den)
    (hBelow : 2 * (den * count) < 2 * num + den) :
    rule.roundQuotient num den = count := by
  have hNear := rule.roundQuotient_le num den
  have hFar := rule.le_roundQuotient num hDen
  apply Nat.le_antisymm
  · by_contra hNot
    have hMore :=
      Nat.mul_le_mul_left den (Nat.lt_of_not_le hNot)
    rw [Nat.mul_succ] at hMore
    omega
  · by_contra hNot
    have hMore :=
      Nat.mul_le_mul_left den (Nat.lt_of_not_le hNot)
    rw [Nat.mul_succ] at hMore
    omega

/-
  A quotient that is closer to some units than a quarter of
  their step is rounded to them, even where the steps below them
  are half as long.
-/
theorem roundUnits_of_close
    (hDen : 0 < den)
    (hNonzero : units ≠ 0)
    (hUnits : twoTo (units.log2 - 52) ∣ units)
    (hAbove : 4 * num <
      4 * (den * units) + den * twoTo (units.log2 - 52))
    (hBelow : 4 * (den * units) <
      4 * num + den * twoTo (units.log2 - 52)) :
    roundUnits num den = units := by
  rcases log2_div_of_close hDen hNonzero hUnits hAbove hBelow with
    ⟨hLeast, hMost⟩
  -- The step of the quotient is theirs, or half of it.
  let step := twoTo ((num / den).log2 - 52)
  have hStep : twoTo (units.log2 - 52) ≤ 2 * step := by
    unfold step
    rw [← twoTo_succ]
    exact twoTo_le_twoTo (by omega)
  have hDvd : step ∣ units :=
    Nat.dvd_trans (twoTo_dvd_twoTo (by omega)) hUnits
  rcases hDvd with ⟨count, hCount⟩
  have hScaled := Nat.mul_le_mul_left den hStep
  rw [Nat.mul_left_comm] at hScaled
  have hProduct : den * units = den * step * count := by
    rw [Nat.mul_assoc, ← hCount]
  rw [hProduct] at hAbove hBelow
  have hRounded : TieRule.toEven.roundQuotient num
      (den * step) = count :=
    roundQuotient_of_close (Nat.mul_pos hDen (twoTo_pos _))
      (by omega) (by omega)
  unfold roundUnits
  dsimp only
  change TieRule.toEven.roundQuotient num (den * step) * step = _
  rw [hRounded, Nat.mul_comm, ← hCount]

end Close

------------------------------------------------------------
-- Fine Grids
------------------------------------------------------------

/-
  The multiples of a power of ten lie closer than half a step of
  the values with so many binary digits.
-/
def IsFine (log : Nat) (exponent : Int) : Prop :=
  2 * (one * tenTo exponent.toNat) <
    twoTo (log - 52) * tenTo (-exponent).toNat

/- The number on a fine grid that is nearest reads back. -/
theorem readsBackTo_of_isFine
    (rule : TieRule)
    {units : Nat}
    {exponent : Int}
    (hNonzero : units ≠ 0)
    (hUnits : Representable units)
    (hFine : IsFine units.log2 exponent) :
    (Digits.mk
      (rule.roundQuotient (units * tenTo (-exponent).toNat)
        (one * tenTo exponent.toNat))
      exponent).readsBackTo units = true := by
  let den := one * tenTo exponent.toNat
  let num := units * tenTo (-exponent).toNat
  let nearer := rule.roundQuotient num den
  have hDen : 0 < den :=
    Nat.mul_pos (twoTo_pos unitBits) (tenTo_pos _)
  have hPower := tenTo_pos (-exponent).toNat
  have hDvd : twoTo (units.log2 - 52) ∣ units :=
    Nat.dvd_of_mod_eq_zero hUnits.2
  have hNear := rule.roundQuotient_le num den
  have hFar := rule.le_roundQuotient num hDen
  change 2 * (den * nearer) ≤ 2 * num + den at hNear
  change 2 * num ≤ 2 * (den * nearer) + den at hFar
  change 2 * den < twoTo (units.log2 - 52) * _ at hFine
  have hRounded : roundUnits
      (nearer * tenTo exponent.toNat * one)
      (tenTo (-exponent).toNat) = units := by
    have hNum : nearer * tenTo exponent.toNat * one =
        den * nearer := by
      unfold den
      ring
    have hScaled : tenTo (-exponent).toNat * units = num :=
      Nat.mul_comm _ _
    rw [hNum]
    apply roundUnits_of_close hPower hNonzero hDvd
    · rw [hScaled, Nat.mul_comm (tenTo _)]
      omega
    · rw [hScaled, Nat.mul_comm (tenTo _)]
      omega
  have hRank :
      ((Digits.mk nearer exponent).toBinary64 false).rank =
        some (units : Int) := by
    have hRatio := rank_ofRatio false ⟨nearer, exponent⟩
    unfold ofRatio ofUnits at hRatio
    rw [dif_pos (hRounded ▸ hUnits)] at hRatio
    unfold Digits.toBinary64
    rw [rank_ofScientific, ← hRatio]
    exact congrArg some (congrArg Nat.cast hRounded)
  change (Digits.mk nearer exponent).readsBackTo units = true
  unfold Digits.readsBackTo
  cases hValue : (Digits.mk nearer exponent).toBinary64 false with
  | nan =>
      rw [hValue] at hRank
      cases hRank
  | infinite negative =>
      have hLess := hUnits.1
      rw [hValue] at hRank
      cases negative <;> simp [rank] at hRank <;> omega
  | finite negative n hN =>
      rw [hValue] at hRank
      apply beq_iff_eq.mpr
      cases negative <;> simp [rank] at hRank <;> omega

------------------------------------------------------------
-- How Many Digits Are Written
------------------------------------------------------------

/-
  Per hundred thousand binary digits a number has 30103 decimal
  ones, but for less than one binary digit.
-/
private theorem powers_close :
    twoTo 100000 < tenTo 30103 ∧
      tenTo 30103 ≤ twoTo 100001 := by
  decide +kernel

private theorem twoTo_lt_tenTo (n : Nat) :
    twoTo n < tenTo (n * 30103 / 100000 + 1) := by
  apply (Nat.pow_lt_pow_iff_left (n := 100000) (by decide)).mp
  calc twoTo n ^ 100000
      = twoTo 100000 ^ n := by
        rw [← twoTo_mul, ← twoTo_mul, Nat.mul_comm]
    _ ≤ tenTo 30103 ^ n :=
        Nat.pow_le_pow_left (Nat.le_of_lt powers_close.1) n
    _ = tenTo (30103 * n) := (tenTo_mul 30103 n).symm
    _ < tenTo ((n * 30103 / 100000 + 1) * 100000) :=
        tenTo_lt_tenTo (by omega)
    _ = tenTo (n * 30103 / 100000 + 1) ^ 100000 :=
        tenTo_mul _ 100000

private theorem tenTo_le_twoTo
    {n : Nat}
    (h : n ≤ 100000) :
    tenTo (n * 30103 / 100000) ≤ twoTo (n + 1) := by
  apply (Nat.pow_le_pow_iff_left (n := 100000) (by decide)).mp
  calc tenTo (n * 30103 / 100000) ^ 100000
      = tenTo (n * 30103 / 100000 * 100000) :=
        (tenTo_mul _ 100000).symm
    _ ≤ tenTo (30103 * n) := tenTo_le_tenTo (by omega)
    _ = tenTo 30103 ^ n := tenTo_mul 30103 n
    _ ≤ twoTo 100001 ^ n := Nat.pow_le_pow_left powers_close.2 n
    _ = twoTo (100001 * n) := (twoTo_mul 100001 n).symm
    _ ≤ twoTo ((n + 1) * 100000) := twoTo_le_twoTo (by omega)
    _ = twoTo (n + 1) ^ 100000 := twoTo_mul _ 100000

/- The first grid for values with so many binary digits. -/
private def firstGrid (log : Nat) : Int :=
  ((log : Int) - unitBits) * 30103 / 100000 + 2

/-
  The first grid is not too fine for a value with so many binary
  digits, and the last of the twenty is fine enough.  The grid's
  exponent is a quotient of naturals on either side of one.
-/
private theorem grids_suffice_add
    {n : Nat}
    (h : n ≤ 100000) :
    twoTo (unitBits + n + 1) *
          tenTo (-firstGrid (unitBits + n)).toNat ≤
        one * tenTo (firstGrid (unitBits + n)).toNat ∧
      IsFine (unitBits + n) (firstGrid (unitBits + n) - 19) := by
  let k := n * 30103 / 100000
  have hGrid : firstGrid (unitBits + n) = (k + 2 : Nat) := by
    unfold firstGrid
    omega
  constructor
  · have hNone : (-((k + 2 : Nat) : Int)).toNat = 0 := by omega
    rw [hGrid, hNone, Int.toNat_natCast, tenTo_zero, Nat.mul_one]
    calc twoTo (unitBits + n + 1)
        = one * (2 * twoTo n) := by
          rw [Nat.add_assoc, twoTo_add, twoTo_succ, one]
      _ ≤ one * (10 * tenTo (k + 1)) :=
          Nat.mul_le_mul_left _ (Nat.mul_le_mul (by decide)
            (Nat.le_of_lt (twoTo_lt_tenTo n)))
      _ = one * tenTo (k + 2) := by rw [← tenTo_succ]
  · unfold IsFine
    rw [hGrid]
    apply Nat.lt_of_mul_lt_mul_right (a := tenTo 17)
    let rest := tenTo (-(((k + 2 : Nat) : Int) - 19)).toNat
    have hDigits : tenTo (((k + 2 : Nat) : Int) - 19).toNat *
        tenTo 17 = tenTo k * rest := by
      rw [← tenTo_add, ← tenTo_add]
      congr 1
      omega
    have hBinary : unitBits + n - 52 + 54 =
        unitBits + (n + 1) + 1 := by
      have hBits : unitBits = 1074 := rfl
      omega
    calc 2 * (one * tenTo (((k + 2 : Nat) : Int) - 19).toNat) *
          tenTo 17
        = 2 * (one * (tenTo k * rest)) := by
          rw [Nat.mul_assoc, Nat.mul_assoc, hDigits]
      _ ≤ 2 * (one * (twoTo (n + 1) * rest)) :=
          Nat.mul_le_mul_left _ (Nat.mul_le_mul_left _
            (Nat.mul_le_mul_right _ (tenTo_le_twoTo h)))
      _ = twoTo (unitBits + n - 52) * twoTo 54 * rest := by
          rw [← twoTo_add (unitBits + n - 52), hBinary,
            twoTo_succ (unitBits + (n + 1)),
            twoTo_add unitBits, one]
          ring
      _ < twoTo (unitBits + n - 52) * tenTo 17 * rest :=
          Nat.mul_lt_mul_of_pos_right
            (Nat.mul_lt_mul_of_pos_left powers_ordered.2
              (twoTo_pos _))
            (tenTo_pos _)
      _ = twoTo (unitBits + n - 52) * rest * tenTo 17 :=
          Nat.mul_right_comm _ _ _

private theorem grids_suffice_of_add
    {log n : Nat}
    (h : log + n = unitBits)
    (hSome : 0 < n) :
    twoTo (log + 1) * tenTo (-firstGrid log).toNat ≤
        one * tenTo (firstGrid log).toNat ∧
      IsFine log (firstGrid log - 19) := by
  let k := n * 30103 / 100000
  have hBits : unitBits = 1074 := rfl
  have hFirst : -firstGrid log ≤ (k : Int) - 1 := by
    unfold firstGrid
    omega
  have hOne : one = twoTo log * twoTo n := by
    rw [one, ← h, twoTo_add]
  constructor
  · by_cases hNone : (-firstGrid log).toNat = 0
    · rw [hNone, tenTo_zero, Nat.mul_one]
      exact Nat.le_trans (twoTo_le_twoTo (by omega))
        (Nat.le_mul_of_pos_right _ (tenTo_pos _))
    · have hOther : (firstGrid log).toNat = 0 := by omega
      rw [hOther, tenTo_zero, Nat.mul_one]
      apply Nat.le_of_mul_le_mul_left _ (Nat.succ_pos 9)
      calc 10 * (twoTo (log + 1) * tenTo (-firstGrid log).toNat)
          = twoTo (log + 1) *
              tenTo ((-firstGrid log).toNat + 1) := by
            rw [tenTo_succ, Nat.mul_left_comm]
        _ ≤ twoTo (log + 1) * tenTo k :=
            Nat.mul_le_mul_left _ (tenTo_le_tenTo (by omega))
        _ ≤ twoTo (log + 1) * twoTo (n + 1) :=
            Nat.mul_le_mul_left _ (tenTo_le_twoTo (by omega))
        _ = 4 * one := by
            rw [hOne, twoTo_succ, twoTo_succ]
            ring
        _ ≤ 10 * one := Nat.mul_le_mul_right _ (by decide)
  · have hLast : (firstGrid log - 19).toNat = 0 := by
      unfold firstGrid
      omega
    have hMany :
        k + 1 + 16 ≤ (-(firstGrid log - 19)).toNat := by
      unfold firstGrid
      omega
    unfold IsFine
    rw [hLast, tenTo_zero, Nat.mul_one]
    calc 2 * one
        = twoTo (log + 1) * twoTo n := by
          rw [hOne, twoTo_succ, Nat.mul_assoc]
      _ ≤ twoTo (log - 52 + 53) * twoTo n :=
          Nat.mul_le_mul_right _ (twoTo_le_twoTo (by omega))
      _ = twoTo (log - 52) * (twoTo n * twoTo 53) := by
          rw [twoTo_add, Nat.mul_assoc, Nat.mul_comm (twoTo 53)]
      _ < twoTo (log - 52) * (tenTo (k + 1) * tenTo 16) := by
          apply Nat.mul_lt_mul_of_pos_left _ (twoTo_pos _)
          exact Nat.mul_lt_mul_of_lt_of_le (twoTo_lt_tenTo n)
            powers_ordered.1 (tenTo_pos 16)
      _ = twoTo (log - 52) * tenTo (k + 1 + 16) := by
          rw [← tenTo_add]
      _ ≤ twoTo (log - 52) *
            tenTo (-(firstGrid log - 19)).toNat :=
          Nat.mul_le_mul_left _ (tenTo_le_tenTo hMany)

private theorem grids_suffice
    {units : Nat}
    (hNonzero : units ≠ 0)
    (hRange : units < rangeEnd) :
    twoTo (units.log2 + 1) * tenTo (-gridStart units).toNat ≤
        one * tenTo (gridStart units).toNat ∧
      IsFine units.log2 (gridStart units - 19) := by
  have hLog : units.log2 < 2098 :=
    (log2_lt_iff_lt_twoTo hNonzero).mpr hRange
  change twoTo (units.log2 + 1) *
        tenTo (-firstGrid units.log2).toNat ≤
      one * tenTo (firstGrid units.log2).toNat ∧
    IsFine units.log2 (firstGrid units.log2 - 19)
  rcases Nat.lt_or_ge units.log2 unitBits with hLess | hMore
  · exact grids_suffice_of_add
      (Nat.add_sub_cancel' (Nat.le_of_lt hLess))
      (Nat.sub_pos_of_lt hLess)
  · have hAdd := grids_suffice_add
      (n := units.log2 - unitBits) (by omega)
    rwa [Nat.add_sub_cancel' hMore] at hAdd

/- A grid without a hit is not fine. -/
private theorem not_isFine_of_onGrid?_eq_none
    {rule : TieRule}
    {units : Nat}
    {exponent : Int}
    (hNonzero : units ≠ 0)
    (hUnits : Representable units)
    (h : onGrid? rule units exponent = none) :
    ¬ IsFine units.log2 exponent := by
  intro hFine
  have hBack := readsBackTo_of_isFine rule hNonzero hUnits hFine
  unfold onGrid? at h
  dsimp only at h
  rw [if_pos hBack] at h
  cases h

/- A hit is one of the two neighbours. -/
private theorem significand_le_of_onGrid?
    {rule : TieRule}
    {units : Nat}
    {exponent : Int}
    {d : Digits}
    (h : onGrid? rule units exponent = some d) :
    d.significand ≤ units * tenTo (-exponent).toNat /
      (one * tenTo exponent.toNat) + 1 := by
  have hNearer := rule.roundQuotient_le_div_succ
    (units * tenTo (-exponent).toNat)
    (one * tenTo exponent.toNat)
  unfold onGrid? at h
  dsimp only at h
  split at h
  · cases h
    exact hNearer
  · rcases Option.ite_none_right_eq_some.mp h with ⟨-, hEq⟩
    cases hEq
    dsimp only
    split
    · exact Nat.le_refl _
    · exact Nat.le_succ _

/-
  On the grid behind one that is not fine, a value has hardly
  more digits than its 53 binary ones.
-/
private theorem div_le_of_not_isFine
    {units : Nat}
    {exponent : Int}
    (h : ¬ IsFine units.log2 exponent) :
    units * tenTo (-(exponent - 1)).toNat /
        (one * tenTo (exponent - 1).toNat) ≤
      10 * (2 * twoTo 53) := by
  unfold IsFine at h
  have hLess : units < twoTo 53 * twoTo (units.log2 - 52) := by
    apply Nat.lt_of_lt_of_le (lt_twoTo_log2_succ units)
    rw [← twoTo_add]
    exact twoTo_le_twoTo (by omega)
  have hPowers : tenTo (-(exponent - 1)).toNat *
        tenTo exponent.toNat =
      10 * (tenTo (-exponent).toNat *
        tenTo (exponent - 1).toNat) := by
    rw [← tenTo_add, ← tenTo_add, ← tenTo_succ]
    congr 1
    omega
  have hDen : 0 < one * tenTo (exponent - 1).toNat :=
    Nat.mul_pos (twoTo_pos unitBits) (tenTo_pos _)
  apply Nat.le_of_lt_succ
  rw [Nat.div_lt_iff_lt_mul hDen]
  apply Nat.lt_of_lt_of_le _
    (Nat.mul_le_mul_right _ (Nat.le_succ _))
  apply Nat.lt_of_mul_lt_mul_right (a := tenTo exponent.toNat)
  calc units * tenTo (-(exponent - 1)).toNat *
        tenTo exponent.toNat
      = units * (10 * (tenTo (-exponent).toNat *
          tenTo (exponent - 1).toNat)) := by
        rw [Nat.mul_assoc, hPowers]
    _ < twoTo 53 * twoTo (units.log2 - 52) *
          (10 * (tenTo (-exponent).toNat *
            tenTo (exponent - 1).toNat)) := by
        apply Nat.mul_lt_mul_of_pos_right hLess
        exact Nat.mul_pos (by decide)
          (Nat.mul_pos (tenTo_pos _) (tenTo_pos _))
    _ = 10 * twoTo 53 * tenTo (exponent - 1).toNat *
          (twoTo (units.log2 - 52) *
            tenTo (-exponent).toNat) := by
        ring
    _ ≤ 10 * twoTo 53 * tenTo (exponent - 1).toNat *
          (2 * (one * tenTo exponent.toNat)) :=
        Nat.mul_le_mul_left _ (Nat.le_of_not_lt h)
    _ = 10 * (2 * twoTo 53) *
          (one * tenTo (exponent - 1).toNat) *
            tenTo exponent.toNat := by
        ring

/-
  The search stops on the first fine grid or before it, with no
  more digits than are behind the last one that is not fine.
-/
private theorem exists_searchGrids
    (rule : TieRule)
    {units : Nat}
    (hNonzero : units ≠ 0)
    (hUnits : Representable units)
    {grids : Nat}
    {exponent : Int}
    (hFirst : units * tenTo (-exponent).toNat /
        (one * tenTo exponent.toNat) ≤
      10 * (2 * twoTo 53))
    (hLast : IsFine units.log2 (exponent - grids)) :
    ∃ d : Digits,
      searchGrids rule units (grids + 1) exponent = some d ∧
      d.significand ≤ 10 * (2 * twoTo 53) + 1 := by
  induction grids generalizing exponent with
  | zero =>
      cases hGrid : onGrid? rule units exponent with
      | some d =>
          refine ⟨d, ?_, Nat.le_trans
            (significand_le_of_onGrid? hGrid)
            (Nat.succ_le_succ hFirst)⟩
          rw [searchGrids, hGrid, Option.orElse_some]
      | none =>
          rw [Nat.cast_zero, sub_zero] at hLast
          exact absurd hLast
            (not_isFine_of_onGrid?_eq_none hNonzero hUnits hGrid)
  | succ grids ih =>
      rw [searchGrids]
      cases hGrid : onGrid? rule units exponent with
      | some d =>
          exact ⟨d, Option.orElse_some, Nat.le_trans
            (significand_le_of_onGrid? hGrid)
            (Nat.succ_le_succ hFirst)⟩
      | none =>
          rw [Option.orElse_none]
          apply ih
          · exact div_le_of_not_isFine
              (not_isFine_of_onGrid?_eq_none hNonzero hUnits
                hGrid)
          · rw [sub_sub, add_comm]
            exact_mod_cast hLast

/- The shortest digits are at most eighteen. -/
theorem significand_shortest_lt
    (rule : TieRule)
    {units : Nat}
    (h : Representable units) :
    (shortest rule units).significand < 2 * tenTo 17 := by
  unfold shortest
  split
  · exact Nat.mul_pos (by decide) (tenTo_pos 17)
  · next hNonzero =>
      rcases grids_suffice hNonzero h.1 with ⟨hFirst, hLast⟩
      have hBelow := Nat.mul_lt_mul_of_pos_right
        (lt_twoTo_log2_succ units)
        (tenTo_pos (-gridStart units).toNat)
      have hNone : units * tenTo (-gridStart units).toNat /
          (one * tenTo (gridStart units).toNat) = 0 :=
        Nat.div_eq_of_lt (Nat.lt_of_lt_of_le hBelow hFirst)
      rcases exists_searchGrids rule hNonzero h
          (hNone ▸ Nat.zero_le _) hLast with
        ⟨d, hSearch, hFew⟩
      rw [hSearch]
      exact Nat.lt_of_le_of_lt hFew significandLimit

/- With decimals, that counts the digits before them as well. -/
theorem significand_numeral_lt
    {x : Binary64}
    (hFinite : x.IsFinite)
    (hDecimals : x.numeral.decimals ≠ []) :
    x.numeral.significand < 2 * tenTo 17 := by
  cases x with
  | nan => cases hFinite
  | infinite negative => cases hFinite
  | finite negative units hUnits =>
      let d := shortest .awayFromZero units
      have hLength : (d.numeral negative).decimals.length =
          (-d.exponent).toNat :=
        d.length_decimals_numeral negative
      have hSome : 0 < (-d.exponent).toNat := by
        rw [← hLength]
        exact List.length_pos_iff.mpr hDecimals
      have hWhole : d.exponent.toNat = 0 := by omega
      have hSignificand := d.significand_numeral negative
      rw [hWhole, tenTo_zero, Nat.mul_one] at hSignificand
      change (d.numeral negative).significand < _
      rw [hSignificand]
      exact significand_shortest_lt .awayFromZero hUnits

end Binary64

end Registrar
