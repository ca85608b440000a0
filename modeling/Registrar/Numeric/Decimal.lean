import Registrar.Numeric.Arithmetic
import Registrar.Numeric.Digits

/-
  This file defines fixed-point decimals of 96 bits: a whole
  number divided by a power of ten of at most 28 places.
  Sums and quotients keep as many places as fit and round an
  exact half to the even neighbour; a result whose whole part
  does not fit is none.

  Key definitions include:
    * `Decimal`
    * `Decimal.nearest?`
    * `Decimal.add?`
    * `Decimal.divideBy?`
    * `Decimal.roundPlaces`
    * `Decimal.ofDigits?`
    * `Decimal.Conversion`
    * `Decimal.ofBinary64?`
    * `Decimal.toBinary64`

  A sign does not change the magnitude:
    * `Decimal.natAbs_signed`
-/

------------------------------------------------------------
-- Decimals
------------------------------------------------------------

namespace Registrar

namespace Decimal

/- The largest mantissa has 96 binary digits. -/
def mantissaLimit : Nat :=
  79228162514264337593543950335

/- The most decimal places. -/
def placesLimit : Nat :=
  28

end Decimal

/- The number `mantissa / 10 ^ places`. -/
structure Decimal where
  mantissa : Int
  places : Nat
  mantissa_le : mantissa.natAbs ≤ Decimal.mantissaLimit
  places_le : places ≤ Decimal.placesLimit
deriving DecidableEq

namespace Decimal

/- Zero without decimals. -/
def zero : Decimal where
  mantissa := 0
  places := 0
  mantissa_le := Nat.zero_le _
  places_le := Nat.zero_le _

instance : Inhabited Decimal :=
  ⟨zero⟩

/- The decimal with these parts, if they fit. -/
def ofParts?
    (mantissa : Int)
    (places : Nat) : Option Decimal :=
  if h : mantissa.natAbs ≤ mantissaLimit ∧
      places ≤ placesLimit then
    some ⟨mantissa, places, h.1, h.2⟩
  else
    none

/- A sign in front of a natural number. -/
def signed
    (negative : Bool)
    (n : Nat) : Int :=
  if negative then -(n : Int) else n

/-
  The decimal nearest to `num / den`, with the most places up
  to `places` for which it fits.  Each number of places rounds
  the exact quotient.
-/
def nearest?
    (negative : Bool)
    (num den : Nat) : Nat → Option Decimal
| 0 =>
    ofParts?
      (signed negative (TieRule.toEven.roundQuotient num den))
      0
| places + 1 =>
    let mantissa :=
      TieRule.toEven.roundQuotient
        (num * tenTo (places + 1)) den
    match ofParts? (signed negative mantissa) (places + 1) with
    | some d => some d
    | none => nearest? negative num den places

/-
  The sum at the larger number of places, or at the largest
  that fits.  A zero term leaves the other term as it is.
-/
def add? (a b : Decimal) : Option Decimal :=
  if a.mantissa = 0 then
    some b
  else if b.mantissa = 0 then
    some a
  else
    let places := max a.places b.places
    let sum :=
      a.mantissa * tenTo (places - a.places) +
        b.mantissa * tenTo (places - b.places)
    nearest? (decide (sum < 0)) sum.natAbs (tenTo places)
      places

/- A sign does not change the magnitude. -/
theorem natAbs_signed
    (negative : Bool)
    (n : Nat) :
    (signed negative n).natAbs = n := by
  cases negative <;> simp [signed]

/- Places at the end are dropped if they hold only zeros. -/
def dropPlaces
    (count : Nat)
    (a : Decimal) : Decimal :=
  if count ≤ a.places ∧
      a.mantissa.natAbs % tenTo count = 0 then
    { mantissa :=
        signed (decide (a.mantissa < 0))
          (a.mantissa.natAbs / tenTo count)
      places := a.places - count
      mantissa_le := by
        rw [natAbs_signed]
        exact Nat.le_trans (Nat.div_le_self _ _) a.mantissa_le
      places_le :=
        Nat.le_trans (Nat.sub_le _ _) a.places_le }
  else
    a

/-
  Eight places are dropped only if the last 32 of the 96
  binary digits are zero as well.
-/
def dropEightPlaces (a : Decimal) : Decimal :=
  if a.mantissa.natAbs % twoTo 32 = 0 then
    a.dropPlaces 8
  else
    a

/-
  Zeros at the end are dropped by the eight as long as that
  can be, and then four, two and one of them.
-/
def dropZeros (a : Decimal) : Decimal :=
  a.dropEightPlaces.dropEightPlaces.dropEightPlaces
    |>.dropPlaces 4 |>.dropPlaces 2 |>.dropPlaces 1

/-
  The most places, up to `places`, by which a mantissa can be
  widened.
-/
def room (mantissa : Nat) : Nat → Nat
| 0 => 0
| places + 1 =>
    if mantissa * tenTo (places + 1) ≤ mantissaLimit then
      places + 1
    else
      room mantissa places

/-
  The number of places at which a division stops.  It is
  carried on by up to nine places at a time, until nothing
  remains or no more places fit.
-/
def divisionPlaces
    (num den : Nat) : Nat → Nat → Nat
| 0, places => places
| steps + 1, places =>
    let widened := num * tenTo places
    let more :=
      room (widened / den) (min 9 (placesLimit - places))
    if widened % den = 0 ∨ more = 0 then
      places
    else
      divisionPlaces num den steps (places + more)

/-
  The quotient by a count.  If the mantissa is a multiple the
  places stay; otherwise the division is carried on from
  there, and zeros at the end are dropped.
-/
def divideBy?
    (a : Decimal)
    (count : Nat) : Option Decimal :=
  if count = 0 then
    none
  else if a.mantissa = 0 then
    some zero
  else if a.mantissa.natAbs % count = 0 then
    ofParts? (a.mantissa.tdiv count) a.places
  else
    let den := tenTo a.places * count
    let places :=
      divisionPlaces a.mantissa.natAbs den placesLimit a.places
    (nearest? (decide (a.mantissa < 0)) a.mantissa.natAbs den
      places).map dropZeros

/- Rounding to fewer places keeps the mantissa in range. -/
private theorem round_le_limit
    {n k : Nat}
    (hn : n ≤ mantissaLimit)
    (hk : 10 ≤ k) :
    TieRule.awayFromZero.roundQuotient n k ≤
      mantissaLimit := by
  have hUp := TieRule.awayFromZero.roundQuotient_le_div_succ n k
  have hDiv : n / k ≤ n / 10 :=
    Nat.div_le_div_left hk (by decide)
  have hLimit : n / 10 ≤ mantissaLimit / 10 :=
    Nat.div_le_div_right hn
  have hNum : mantissaLimit / 10 + 1 ≤ mantissaLimit := by
    decide
  omega

/-
  Rounded to `places` places, a half away from zero.  A number
  with no more places than that stays as it is.
-/
def roundPlaces
    (a : Decimal)
    (places : Nat) : Decimal :=
  if h : a.places ≤ places then
    a
  else
    { mantissa :=
        signed (decide (a.mantissa < 0))
          (TieRule.awayFromZero.roundQuotient
            a.mantissa.natAbs (tenTo (a.places - places)))
      places := places
      mantissa_le := by
        rw [natAbs_signed]
        apply round_le_limit a.mantissa_le
        have hPos : 1 ≤ a.places - places := by omega
        exact tenTo_le_tenTo hPos
      places_le := by
        have := a.places_le
        omega }

------------------------------------------------------------
-- Decimals And Binary Values
------------------------------------------------------------

/-
  The decimal with the digits of the plain text.  Decimals
  after the last place round half away from zero.
-/
def ofDigits? : Binary64 → Option Decimal
| .finite negative units _ =>
    let digits := Binary64.shortest .awayFromZero units
    let places := min (-digits.exponent).toNat placesLimit
    ofParts?
      (signed negative
        (TieRule.awayFromZero.roundQuotient
          (digits.significand * tenTo digits.exponent.toNat *
            tenTo places)
          (tenTo (-digits.exponent).toNat)))
      places
| _ => none

/- What is tried for a value whose digits do not fit. -/
abbrev Conversion :=
  Binary64 → Option Decimal

/-
  The decimal of a binary value: that with its digits, and if
  they do not fit, what `retry` makes of it.
-/
def ofBinary64?
    (retry : Conversion)
    (x : Binary64) : Option Decimal :=
  (ofDigits? x).orElse fun _ => retry x

/-
  The second attempt that fails.  Values whose digits do not fit
  are larger than every decimal.
-/
def noRetry : Conversion :=
  fun _ => none

/- There is no second attempt if the digits fit. -/
theorem ofBinary64?_of_ofDigits?
    {retry : Conversion}
    {x : Binary64}
    {a : Decimal}
    (h : ofDigits? x = some a) :
    ofBinary64? retry x = some a := by
  rw [ofBinary64?, h]
  rfl

/-
  The value of the magnitude.  The whole part and the fraction
  are converted on their own; their sum is then rounded to the
  decimal places once more.
-/
def magnitudeToBinary64
    (mantissa places : Nat) : Binary64 :=
  let scale := tenTo places
  let whole := mantissa / scale
  let fraction := mantissa % scale
  if fraction = 0 then
    Binary64.ofNat whole
  else
    let sum :=
      (Binary64.ofNat whole).add
        ((Binary64.ofNat fraction).div (Binary64.ofNat scale))
    (sum.mul (Binary64.ofNat scale)).roundWhole.div
      (Binary64.ofNat scale)

/- The binary value of a decimal.  Zero has no sign. -/
def toBinary64 (a : Decimal) : Binary64 :=
  let value := magnitudeToBinary64 a.mantissa.natAbs a.places
  if a.mantissa < 0 then value.negate else value

end Decimal

end Registrar
