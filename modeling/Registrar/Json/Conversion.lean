import Registrar.Json.Numeral
import Registrar.Numeric.Arithmetic

/-
  This file converts written numbers step by step: the digits
  are gathered as long as they fit 64 bits, and their value is
  then multiplied or divided by a power of ten.  Each step
  rounds, so that the value is not always the nearest one.

  Key definitions include:
    * `Json.gatherDigits`
    * `Json.Numeral.gathered`
    * `Json.Numeral.scaled`
    * `Json.Numeral.stepwise`
-/

------------------------------------------------------------
-- Gathered Digits
------------------------------------------------------------

namespace Registrar

namespace Json

/-
  The number that digits continue, up to the first of them with
  which it would not fit 64 bits, and how many are left.
-/
def gatherDigits : Nat → List Char → Nat × Nat
| n, [] => (n, 0)
| n, c :: rest =>
    let next := n * 10 + (c.toNat - '0'.toNat)
    if next < twoTo 64 then
      gatherDigits next rest
    else
      (n, rest.length + 1)

namespace Numeral

/-
  The digits that are kept and the power of ten they are scaled
  by.  Digits in front of the point that are left out count one
  each; the decimals go on from what has been kept.
-/
def gathered (n : Numeral) : Nat × Int :=
  let (whole, skipped) := gatherDigits 0 n.whole
  let (significand, ignored) := gatherDigits whole n.decimals
  let places : Int := n.decimals.length - ignored
  (significand, n.exponent.getD 0 + skipped - places)

------------------------------------------------------------
-- Scaled Values
------------------------------------------------------------

/- The largest power of ten that is a binary value. -/
def scaleLimit : Nat :=
  308

/- A power of ten as a binary value. -/
def scale (exponent : Nat) : Binary64 :=
  Binary64.ofNat (tenTo exponent)

/- A value divided so often, unless it vanishes before. -/
def divided : Nat → Binary64 → Binary64
| 0, x => x
| count + 1, x =>
    if x = Binary64.zero then
      x
    else
      divided count (x.div (scale scaleLimit))

/-
  A value scaled by a power of ten.  Multiplied by one out of
  range, only zero stays in range; divided by one, it is divided
  by the largest one first, as often as that takes.
-/
def scaled
    (x : Binary64)
    (exponent : Int) : Binary64 :=
  let size := exponent.natAbs
  if 0 ≤ exponent then
    if size ≤ scaleLimit then
      x.mul (scale size)
    else if x = Binary64.zero then
      x
    else
      .infinite false
  else
    let count := (size - 1) / scaleLimit
    (divided count x).div (scale (size - count * scaleLimit))

/- The gathered digits, scaled, and the sign at last. -/
def stepwise (n : Numeral) : Binary64 :=
  let (significand, exponent) := n.gathered
  let x := scaled (Binary64.ofNat significand) exponent
  if n.negative then x.negate else x

end Numeral

end Json

end Registrar
