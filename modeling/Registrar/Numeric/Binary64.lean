import Registrar.Numeric.Powers
import Registrar.Numeric.Rounding

/-
  This file defines the numbers of the registrar: binary64
  values.  A finite value is a sign and a whole number of
  units of 2^-1074, of which at most 53 binary digits are
  significant.  Every operation is the exact result, rounded
  once to the nearest value, an exact half to the even one.

  What is not a number comes with a sign and a fraction, so
  that every pattern of 64 bits is one value.

  Key definitions include:
    * `Binary64.Representable`
    * `Binary64.IsFraction`
    * `Binary64`
    * `Binary64.ofUnits`
    * `Binary64.ofRatio`
    * `Binary64.ofScientific`
    * `Binary64.ofInt`
    * `Binary64.bits`
    * `Binary64.rank`
    * `Binary64.compare?`
-/

------------------------------------------------------------
-- Values
------------------------------------------------------------

namespace Registrar

namespace Binary64

/- There are `twoTo unitBits` units in one. -/
def unitBits : Nat :=
  1074

/- One, in units. -/
def one : Nat :=
  twoTo unitBits

/- The range ends at 2^1024; this is that number in units. -/
def rangeEnd : Nat :=
  twoTo (unitBits + 1024)

/-
  A number of units that a finite value can hold: it is in
  range, and all binary digits after the first 53 are zero.
-/
def Representable (units : Nat) : Prop :=
  units < rangeEnd ∧ units % twoTo (units.log2 - 52) = 0

instance (units : Nat) : Decidable (Representable units) := by
  unfold Representable
  infer_instance

/- Zero units can be held. -/
theorem representable_zero : Representable 0 :=
  ⟨twoTo_pos (unitBits + 1024), Nat.zero_mod _⟩

/- A fraction has so many bits. -/
def fractionBits : Nat :=
  52

/- The fraction of what is not a number: all but zero. -/
def IsFraction (fraction : Nat) : Prop :=
  0 < fraction ∧ fraction < twoTo fractionBits

instance (fraction : Nat) : Decidable (IsFraction fraction) := by
  unfold IsFraction
  infer_instance

/- Only the leading bit of a fraction may be set. -/
theorem isFraction_leading :
    IsFraction (twoTo (fractionBits - 1)) :=
  ⟨twoTo_pos _, twoTo_lt_twoTo (by decide)⟩

end Binary64

/-
  A binary64 value.  Zero has a sign, and so has what is not a
  number; its fraction tells it from others of the kind.
-/
inductive Binary64 where
| nan
    (negative : Bool)
    (fraction : Nat)
    (isFraction : Binary64.IsFraction fraction)
| infinite (negative : Bool)
| finite
    (negative : Bool)
    (units : Nat)
    (representable : Binary64.Representable units)
deriving DecidableEq

namespace Binary64

/- Zero without a sign. -/
def zero : Binary64 :=
  .finite false 0 representable_zero

instance : Inhabited Binary64 :=
  ⟨zero⟩

/- A value that is a number and not infinite. -/
def IsFinite : Binary64 → Prop
| .finite _ _ _ => True
| _ => False

instance (x : Binary64) : Decidable x.IsFinite := by
  cases x <;> unfold IsFinite <;> infer_instance

/- A value that is not a number, whatever its bits are. -/
def IsNan : Binary64 → Prop
| .nan _ _ _ => True
| _ => False

instance (x : Binary64) : Decidable x.IsNan := by
  cases x <;> unfold IsNan <;> infer_instance

/-
  What an operation yields that has no number to yield.  Its
  bits are left open by the format; nothing that is shown of a
  result depends on them.
-/
def quietNan : Binary64 :=
  .nan false (twoTo (fractionBits - 1)) isFraction_leading

------------------------------------------------------------
-- Rounding To The Nearest Value
------------------------------------------------------------

/-
  `num / den` in units, rounded to 53 significant binary
  digits.  Below 2^53 units that is a whole number of units.
-/
def roundUnits (num den : Nat) : Nat :=
  let step := twoTo ((num / den).log2 - 52)
  TieRule.toEven.roundQuotient num (den * step) * step

/- The value nearest to `num / den` units. -/
def ofUnits
    (negative : Bool)
    (num den : Nat) : Binary64 :=
  if h : Representable (roundUnits num den) then
    .finite negative (roundUnits num den) h
  else
    .infinite negative

/- The value nearest to `num / den`. -/
def ofRatio
    (negative : Bool)
    (num den : Nat) : Binary64 :=
  ofUnits negative (num * one) den

/- The value nearest to a whole number. -/
def ofInt (n : Int) : Binary64 :=
  ofRatio (decide (n < 0)) n.natAbs 1

/- The value nearest to a natural number. -/
def ofNat (n : Nat) : Binary64 :=
  ofRatio false n 1

/- The number of decimal digits; zero has none. -/
def decimalLength (n : Nat) : Nat :=
  if n = 0 then 0 else (Nat.toDigits 10 n).length

/-
  The value nearest to `significand * 10 ^ exponent`.  From
  10^309 on every number is out of range, and below 10^-323
  every one is nearest to zero, so that the power of ten need
  not be computed there.
-/
def ofScientific
    (negative : Bool)
    (significand : Nat)
    (exponent : Int) : Binary64 :=
  let lead := exponent + decimalLength significand
  if significand = 0 ∨ lead < -323 then
    .finite negative 0 representable_zero
  else if 309 < lead then
    .infinite negative
  else
    ofRatio negative
      (significand * tenTo exponent.toNat)
      (tenTo (-exponent).toNat)

------------------------------------------------------------
-- Encoding
------------------------------------------------------------

/-
  The exponent and the fraction of some units, encoded as one
  number.  The leading binary digit of a normal number is not
  stored, but counts one in the exponent.
-/
def magnitudeBits (units : Nat) : Nat :=
  let shift := units.log2 - fractionBits
  shift * twoTo fractionBits + units / twoTo shift

/- The sign bit, which comes first of the 64. -/
def signBit (negative : Bool) : Nat :=
  if negative then twoTo 63 else 0

/-
  The 64 bits of a value.  An infinity is encoded as the end
  of the range would be, and what is not a number beyond it.
-/
def bits : Binary64 → Nat
| .nan negative fraction _ =>
    signBit negative + (magnitudeBits rangeEnd + fraction)
| .infinite negative =>
    signBit negative + magnitudeBits rangeEnd
| .finite negative units _ =>
    signBit negative + magnitudeBits units

------------------------------------------------------------
-- Order
------------------------------------------------------------

/-
  The place on the number line, in units.  Both zeros share
  one place; the infinities lie just out of range.
-/
def rank : Binary64 → Option Int
| .nan _ _ _ => none
| .infinite true => some (-(rangeEnd : Int))
| .infinite false => some (rangeEnd : Int)
| .finite true units _ => some (-(units : Int))
| .finite false units _ => some (units : Int)

/- The order of two numbers; none if one is not a number. -/
def compare?
    (x y : Binary64) : Option Ordering :=
  match x.rank, y.rank with
  | some a, some b => some (compare a b)
  | _, _ => none

/- Numerically below. -/
def isBelow (x y : Binary64) : Bool :=
  x.compare? y == some .lt

/- Numerically equal. -/
def isSame (x y : Binary64) : Bool :=
  x.compare? y == some .eq

/-
  The larger of two.  A number wins over what is none, and of
  two zeros the second one is taken.
-/
def larger (x y : Binary64) : Binary64 :=
  match x.rank, y.rank with
  | none, _ => y
  | some _, none => x
  | some a, some b => if b < a then x else y

/- The smaller of two, with the same rules. -/
def smaller (x y : Binary64) : Binary64 :=
  match x.rank, y.rank with
  | none, _ => y
  | some _, none => x
  | some a, some b => if a < b then x else y

/- The value without its sign. -/
def magnitude : Binary64 → Binary64
| .nan _ fraction h => .nan false fraction h
| .infinite _ => .infinite false
| .finite _ units h => .finite false units h

/- The value with its sign turned. -/
def negate : Binary64 → Binary64
| .nan negative fraction h => .nan (!negative) fraction h
| .infinite negative => .infinite (!negative)
| .finite negative units h => .finite (!negative) units h

end Binary64

end Registrar
