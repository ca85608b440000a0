import Registrar.Numeric.Decimal

/-
  This file defines totals.  A total is kept as a decimal as
  long as all numbers and sums have one, and as a binary value
  beside it, which takes over where the decimal fails.  What is
  tried for numbers whose digits fit no decimal is a parameter.

  Key definitions include:
    * `Total`
    * `Total.add`
    * `Total.ofList`
    * `Total.divideBy`
    * `Total.rounded`
-/

------------------------------------------------------------
-- Totals
------------------------------------------------------------

namespace Registrar

/- A sum in two forms. -/
structure Total where
  exact : Option Decimal
  approximate : Binary64
deriving DecidableEq

namespace Total

/- The sum of nothing. -/
def zero : Total :=
  ⟨some Decimal.zero, Binary64.zero⟩

/- One more number is added. -/
def add
    (retry : Decimal.Conversion)
    (total : Total)
    (x : Binary64) : Total where
  exact :=
    match total.exact, Decimal.ofBinary64? retry x with
    | some sum, some d => sum.add? d
    | _, _ => none
  approximate := total.approximate.add x

/- The sum of numbers, added in their order. -/
def ofList
    (retry : Decimal.Conversion)
    (xs : List Binary64) : Total :=
  xs.foldl (add retry) zero

/- The sum divided by a count. -/
def divideBy (total : Total) (count : Nat) : Total where
  exact := total.exact.bind (fun sum => sum.divideBy? count)
  approximate := total.approximate.div (Binary64.ofNat count)

/- The number of decimal places of a result. -/
def resultPlaces : Nat :=
  2

/- One hundred. -/
def hundred : Binary64 :=
  Binary64.ofNat (tenTo resultPlaces)

/- From here on binary values are left as they are. -/
def coarse : Binary64 :=
  Binary64.ofNat (tenTo 15)

/-
  A binary value rounded to two places.  What is not a number
  stays what it is.
-/
def roundBinary (x : Binary64) : Binary64 :=
  if x.magnitude.isBelow coarse ∨ x.IsNan then
    (x.mul hundred).roundWhole.div hundred
  else
    x

/- The sum rounded to two places, as a binary value. -/
def rounded (total : Total) : Binary64 :=
  match total.exact with
  | some d => (d.roundPlaces resultPlaces).toBinary64
  | none => roundBinary total.approximate

end Total

end Registrar
