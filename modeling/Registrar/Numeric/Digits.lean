import Registrar.Numeric.Binary64

/-
  This file chooses the decimal digits of a binary64 value:
  the fewest that read back to the same value, and of those
  the nearest.

  The search tries coarse grids of decimal numbers before
  finer ones.  On each grid only the two neighbours of the
  value can read back to it, so the first grid with a hit has
  the fewest digits.

  Key definitions include:
    * `Digits`
    * `Digits.toBinary64`
    * `Binary64.shortest`
    * `Binary64.plainText`
-/

------------------------------------------------------------
-- Decimal Digits
------------------------------------------------------------

namespace Registrar

/- The number `significand * 10 ^ exponent`. -/
structure Digits where
  significand : Nat
  exponent : Int
deriving DecidableEq, Repr

namespace Digits

/- The value nearest to the digits, with a sign. -/
def toBinary64
    (negative : Bool)
    (d : Digits) : Binary64 :=
  Binary64.ofScientific negative d.significand d.exponent

/- Whether the digits read back to so many units. -/
def readsBackTo
    (d : Digits)
    (units : Nat) : Bool :=
  match d.toBinary64 false with
  | .finite _ n _ => n == units
  | _ => false

/- The significand in decimal. -/
def characters (d : Digits) : List Char :=
  Nat.toDigits 10 d.significand

/-
  The digits without an exponent: zeros are filled in up to
  the point, and a point is set only before decimals.
-/
def positional (d : Digits) : List Char :=
  let digits := d.characters
  if 0 ≤ d.exponent then
    digits ++ List.replicate d.exponent.toNat '0'
  else
    let places := (-d.exponent).toNat
    if places < digits.length then
      digits.take (digits.length - places) ++
        '.' :: digits.drop (digits.length - places)
    else
      '0' :: '.' ::
        (List.replicate (places - digits.length) '0' ++ digits)

end Digits

------------------------------------------------------------
-- Shortest Digits
------------------------------------------------------------

namespace Binary64

/-
  The neighbour of `units` on the grid of multiples of
  `10 ^ exponent` that reads back to it, the nearer one first;
  the rule decides which is nearer at an exact half.
-/
def onGrid?
    (rule : TieRule)
    (units : Nat)
    (exponent : Int) : Option Digits :=
  let num := units * tenTo (-exponent).toNat
  let den := one * tenTo exponent.toNat
  let below := num / den
  let nearer := rule.roundQuotient num den
  let farther := if nearer = below then below + 1 else below
  if (Digits.mk nearer exponent).readsBackTo units then
    some ⟨nearer, exponent⟩
  else if (Digits.mk farther exponent).readsBackTo units then
    some ⟨farther, exponent⟩
  else
    none

/- The first hit on grids that become finer by ten. -/
def searchGrids
    (rule : TieRule)
    (units : Nat) : Nat → Int → Option Digits
| 0, _ => none
| grids + 1, exponent =>
    (onGrid? rule units exponent).orElse fun _ =>
      searchGrids rule units grids (exponent - 1)

/-
  An exponent above that of the leading decimal digit of
  `units`, by at most two: 30103 / 100000 is the decimal
  logarithm of two from above, and close enough for every
  value in range.
-/
def gridStart (units : Nat) : Int :=
  ((units.log2 : Int) - unitBits) * 30103 / 100000 + 2

/- All digits of `units`: a half is five tenths. -/
def allDigits (units : Nat) : Digits :=
  ⟨units * fiveTo unitBits, -unitBits⟩

/-
  The fewest digits that read back to `units`.  Seventeen
  digits always do; twenty grids hold them.
-/
def shortest
    (rule : TieRule)
    (units : Nat) : Digits :=
  if units = 0 then
    ⟨0, 0⟩
  else
    match searchGrids rule units 20 (gridStart units) with
    | some d => d
    | none => allDigits units

/- A minus sign in front of a negative value's digits. -/
def withSign
    (negative : Bool)
    (text : List Char) : List Char :=
  if negative then '-' :: text else text

/-
  The plain text of a value: its shortest digits without an
  exponent.  Of two equally near candidates it takes the
  upper one.
-/
def plainText : Binary64 → String
| .nan _ _ _ => "NaN"
| .infinite negative =>
    String.ofList (withSign negative ['i', 'n', 'f'])
| .finite negative units _ =>
    String.ofList (withSign negative
      (shortest .awayFromZero units).positional)

end Binary64

end Registrar
