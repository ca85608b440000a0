import Registrar.Json.Conversion
import Registrar.Proofs.Data.Encoding

/-
  This file proves where the stepwise conversion of written
  numbers gives the nearest value: if the digits make a number
  of at most 2^53, and the power of ten is at most 10^22 or its
  inverse.  Both are exact then, so that only the product or the
  quotient is rounded.  Records of such numbers are read back.

  Key definitions include:
    * `Json.Numeral.IsShort`
    * `Record.IsShort`

  Main statements:
    * `Json.Numeral.gathered_of_lt`
    * `Json.Numeral.stepwise_eq_toBinary64`
    * `Record.ofText_render_of_isShort`
-/

------------------------------------------------------------
-- Gathered Digits
------------------------------------------------------------

namespace Registrar

namespace Json

private theorem le_foldl_digits
    (digits : List Char)
    (n : Nat) :
    n ≤ digits.foldl
      (fun n c => n * 10 + (c.toNat - '0'.toNat)) n := by
  induction digits generalizing n with
  | nil => exact Nat.le_refl n
  | cons c rest ih =>
      have hNext : n ≤ n * 10 + (c.toNat - '0'.toNat) := by
        omega
      exact Nat.le_trans hNext (ih _)

/- Digits are all kept if their number fits 64 bits. -/
theorem gatherDigits_of_lt
    {digits : List Char}
    {n : Nat}
    (h : digits.foldl
        (fun n c => n * 10 + (c.toNat - '0'.toNat)) n <
      twoTo 64) :
    gatherDigits n digits =
      (digits.foldl
        (fun n c => n * 10 + (c.toNat - '0'.toNat)) n, 0) := by
  induction digits generalizing n with
  | nil => rfl
  | cons c rest ih =>
      rw [List.foldl_cons] at h
      have hNext : n * 10 + (c.toNat - '0'.toNat) < twoTo 64 :=
        Nat.lt_of_le_of_lt (le_foldl_digits rest _) h
      unfold gatherDigits
      rw [if_pos hNext]
      exact ih h

namespace Numeral

/- Then the places are those of the decimals and the exponent. -/
theorem gathered_of_lt
    {n : Numeral}
    (h : n.significand < twoTo 64) :
    n.gathered =
      (n.significand,
        n.exponent.getD 0 - n.decimals.length) := by
  unfold significand natOfDigits at h ⊢
  rw [List.foldl_append] at h ⊢
  have hWhole := Nat.lt_of_le_of_lt (le_foldl_digits _ _) h
  unfold gathered
  rw [gatherDigits_of_lt hWhole]
  dsimp only
  rw [gatherDigits_of_lt h]
  simp

end Numeral

end Json

------------------------------------------------------------
-- Exact Factors
------------------------------------------------------------

namespace Binary64

/- Powers of ten up to 10^22 are binary values. -/
private theorem representable_tenTo :
    ∀ size < 23, Representable (tenTo size * one) := by
  decide +kernel

private theorem twoTo_53_lt :
    twoTo 53 < twoTo 64 ∧ twoTo 53 < tenTo 16 := by
  decide +kernel

end Binary64

-- Powers up to 2^2098 occur; none of them is to be computed.
attribute [local irreducible] twoTo tenTo

namespace Binary64

private theorem unitsOfOne_pos : 0 < one :=
  twoTo_pos unitBits

/- A natural number that is a binary value is converted to it. -/
private theorem ofNat_of_representable
    {n : Nat}
    (h : Representable (n * one)) :
    ofNat n = .finite false (n * one) h := by
  have hSame := ofUnits_of_representable false Nat.one_pos h
  rwa [Nat.mul_one] at hSame

/- The product of whole numbers is rounded once. -/
private theorem mul_of_representable
    {m n : Nat}
    (hM : Representable (m * one))
    (hN : Representable (n * one)) :
    (ofNat m).mul (ofNat n) = ofRatio false (m * n) 1 := by
  have hUnits : m * one * (n * one) = m * n * one * one := by
    rw [Nat.mul_mul_mul_comm, Nat.mul_assoc (m * n)]
  rw [ofNat_of_representable hM, ofNat_of_representable hN]
  unfold mul
  dsimp only
  rw [hUnits]
  exact ofRatio_congr false unitsOfOne_pos Nat.one_pos
    (Nat.mul_one _)

/- The quotient of whole numbers is rounded once. -/
private theorem div_of_representable
    {m n : Nat}
    (hM : Representable (m * one))
    (hN : Representable (n * one))
    (hNonzero : 0 < n) :
    (ofNat m).div (ofNat n) = ofRatio false m n := by
  have hUnits : n * one ≠ 0 :=
    (Nat.mul_pos hNonzero unitsOfOne_pos).ne'
  rw [ofNat_of_representable hM, ofNat_of_representable hN]
  unfold div
  dsimp only
  rw [if_neg hUnits]
  apply ofRatio_congr false (Nat.mul_pos hNonzero unitsOfOne_pos)
    hNonzero
  rw [Nat.mul_right_comm, Nat.mul_assoc]

/- A quotient is rounded alike with either sign. -/
private theorem negate_ofRatio
    (negative : Bool)
    (num den : Nat) :
    (ofRatio negative num den).negate =
      ofRatio (!negative) num den := by
  unfold ofRatio ofUnits
  split <;> rfl

/- A few digits are scaled by one rounding. -/
private theorem scaled_of_few
    {significand : Nat}
    {exponent : Int}
    (hSignificand : significand ≤ twoTo 53)
    (hExponent : exponent.natAbs < 23) :
    Json.Numeral.scaled (ofNat significand) exponent =
      ofRatio false (significand * tenTo exponent.toNat)
        (tenTo (-exponent).toNat) := by
  have hHeld : Representable (significand * one) :=
    representable_shifted hSignificand (by decide)
  have hScale := representable_tenTo exponent.natAbs hExponent
  unfold Json.Numeral.scaled Json.Numeral.scale
    Json.Numeral.scaleLimit
  dsimp only
  split
  · next hNonneg =>
      have hUp : exponent.toNat = exponent.natAbs := by omega
      have hDown : (-exponent).toNat = 0 := by omega
      rw [if_pos (by omega), hUp, hDown, tenTo_zero]
      exact mul_of_representable hHeld hScale
  · next hNegative =>
      have hUp : exponent.toNat = 0 := by omega
      have hDown : (-exponent).toNat = exponent.natAbs := by omega
      have hOnce : (exponent.natAbs - 1) / 308 = 0 := by omega
      rw [hOnce, hUp, hDown, tenTo_zero, Nat.mul_one,
        Nat.zero_mul, Nat.sub_zero]
      exact div_of_representable hHeld hScale (tenTo_pos _)

/- So are they where the nearest value is computed at once. -/
private theorem ofScientific_of_few
    (negative : Bool)
    {significand : Nat}
    {exponent : Int}
    (hSignificand : significand ≤ twoTo 53)
    (hExponent : exponent.natAbs < 23) :
    ofScientific negative significand exponent =
      ofRatio negative (significand * tenTo exponent.toNat)
        (tenTo (-exponent).toNat) := by
  have hLength : decimalLength significand ≤ 16 :=
    decimalLength_le_iff.mpr
      (Nat.lt_of_le_of_lt hSignificand twoTo_53_lt.2)
  unfold ofScientific
  dsimp only
  split
  · next hNone =>
      have hZero : significand = 0 := by omega
      have hUnits := ofUnits_of_representable negative
        (tenTo_pos (-exponent).toNat) representable_zero
      rw [Nat.zero_mul] at hUnits
      rw [hZero, ofRatio, Nat.zero_mul, Nat.zero_mul, hUnits]
  · rw [if_neg (by omega)]

end Binary64

------------------------------------------------------------
-- Numerals Of Few Digits
------------------------------------------------------------

namespace Json

namespace Numeral

/- Few digits and a small power of ten. -/
def IsShort (n : Numeral) : Prop :=
  n.significand ≤ twoTo 53 ∧
    (n.exponent.getD 0 - n.decimals.length : Int).natAbs ≤ 22

instance (n : Numeral) : Decidable n.IsShort := by
  unfold IsShort
  infer_instance

/-
  With few digits and a small power of ten the value computed
  step by step is the nearest one.
-/
theorem stepwise_eq_toBinary64
    {n : Numeral}
    (h : n.IsShort) :
    n.stepwise = n.toBinary64 := by
  rcases h with ⟨hSignificand, hExponent⟩
  have hLess := Nat.lt_succ_of_le hExponent
  unfold stepwise toBinary64
  rw [gathered_of_lt
      (Nat.lt_of_le_of_lt hSignificand Binary64.twoTo_53_lt.1),
    Binary64.ofScientific_of_few n.negative hSignificand hLess]
  dsimp only
  rw [Binary64.scaled_of_few hSignificand hLess]
  cases n.negative with
  | false => rw [if_neg Bool.false_ne_true]
  | true => rw [if_pos rfl, Binary64.negate_ofRatio, Bool.not_false]

end Numeral

end Json

------------------------------------------------------------
-- Records Of Few Digits
------------------------------------------------------------

namespace Record

/- All numbers of a record are written with few digits. -/
def IsShort (record : Record) : Prop :=
  ∀ x : Binary64, .number x ∈ record.values →
    x.wireNumeral.IsShort

/-
  Records of finite numbers that are written with few digits are
  read from their texts.
-/
theorem ofText_render_of_isShort
    {record : Record}
    (hAscending : record.entries.Ascending)
    (hFinite : record.IsFinite)
    (h : record.IsShort) :
    ofText Json.Numeral.stepwise record.toJson.render =
      .ok record := by
  apply (ofText_render_iff hAscending ?_).mpr hFinite
  rw [readsBack_toJson_iff]
  intro x hMem hX
  exact (Json.Numeral.stepwise_eq_toBinary64 (h x hMem)).trans
    (Binary64.toBinary64_wireNumeral hX)

/- Coordinates and averages are usually written so. -/
example :
    IsShort
      ⟨[("avg", .number (.ofScientific false 7713 (-2))),
        ("lon", .number (.ofScientific true 12325027 (-5)))]⟩ := by
  intro x hMem
  have hEach : ∀ y ∈
      [Binary64.ofScientific false 7713 (-2),
        Binary64.ofScientific true 12325027 (-5)],
      y.wireNumeral.IsShort := by
    decide +kernel
  simp only [values, List.map_cons, List.map_nil, List.mem_pair,
    Value.number.injEq] at hMem
  exact hEach x (List.mem_pair.mpr hMem)

end Record

end Registrar
