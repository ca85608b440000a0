import Registrar.Numeric.Binary64

/-
  This file defines the arithmetic of binary64 values: each
  operation is exact on the units and rounded once.

  Key definitions include:
    * `Binary64.add`
    * `Binary64.mul`
    * `Binary64.div`
    * `Binary64.roundWhole`
-/

------------------------------------------------------------
-- Arithmetic
------------------------------------------------------------

namespace Registrar

namespace Binary64

/- A sign and a number of units as a whole number. -/
def signedUnits
    (negative : Bool)
    (units : Nat) : Int :=
  if negative then -(units : Int) else units

/-
  The sum.  A sum of zero has a sign only if both terms have
  one; opposite infinities have no sum.
-/
def add : Binary64 → Binary64 → Binary64
| .finite s a _, .finite t b _ =>
    let sum := signedUnits s a + signedUnits t b
    let negative :=
      if sum = 0 then s && t else decide (sum < 0)
    ofUnits negative sum.natAbs 1
| .infinite s, .infinite t =>
    if s = t then .infinite s else quietNan
| .infinite s, .finite _ _ _ => .infinite s
| .finite _ _ _, .infinite t => .infinite t
| .nan _ _ _, _ => quietNan
| _, .nan _ _ _ => quietNan

/- The product.  Zero times infinity has none. -/
def mul : Binary64 → Binary64 → Binary64
| .finite s a _, .finite t b _ =>
    ofUnits (s != t) (a * b) one
| .infinite s, .infinite t => .infinite (s != t)
| .infinite s, .finite t b _ =>
    if b = 0 then quietNan else .infinite (s != t)
| .finite s a _, .infinite t =>
    if a = 0 then quietNan else .infinite (s != t)
| .nan _ _ _, _ => quietNan
| _, .nan _ _ _ => quietNan

/-
  The quotient.  A number over zero is infinite; zero over
  zero and infinity over infinity have no quotient.
-/
def div : Binary64 → Binary64 → Binary64
| .finite s a _, .finite t b _ =>
    if b = 0 then
      if a = 0 then quietNan else .infinite (s != t)
    else
      ofUnits (s != t) (a * one) b
| .infinite _, .infinite _ => quietNan
| .infinite s, .finite t _ _ => .infinite (s != t)
| .finite s _ _, .infinite t =>
    .finite (s != t) 0 representable_zero
| .nan _ _ _, _ => quietNan
| _, .nan _ _ _ => quietNan

/- The nearest whole number, halves away from zero. -/
def roundWhole : Binary64 → Binary64
| .finite s a _ =>
    ofRatio s (TieRule.awayFromZero.roundQuotient a one) 1
| x => x

end Binary64

end Registrar
