import Registrar.Json.Reader

/-
  This file reads numbers: an optional minus sign, digits
  without a needless leading zero, and optionally decimals and
  an exponent.  How written numbers are converted to binary
  values is a parameter.

  Key definitions include:
    * `Json.Numeral`
    * `Json.Conversion`
    * `Json.Numeral.toJson?`
    * `Json.readNumeral`
    * `Json.readNumber`
-/

------------------------------------------------------------
-- Written Numbers
------------------------------------------------------------

namespace Registrar

namespace Json

/-
  The parts of a written number.  There are no decimals if it
  has no point.
-/
structure Numeral where
  negative : Bool
  whole : List Char
  decimals : List Char
  exponent : Option Int
deriving DecidableEq, Repr

/- The number that decimal digits denote. -/
def natOfDigits (digits : List Char) : Nat :=
  digits.foldl
    (fun n c => n * 10 + (c.toNat - '0'.toNat)) 0

namespace Numeral

/- All digits, without the point. -/
def significand (n : Numeral) : Nat :=
  natOfDigits (n.whole ++ n.decimals)

/- The value nearest to a written number. -/
def toBinary64 (n : Numeral) : Binary64 :=
  Binary64.ofScientific n.negative n.significand
    (n.exponent.getD 0 - n.decimals.length)

/-
  The whole number that was written, if it has neither point
  nor exponent and fits 64 bits.  Minus zero is none: a whole
  number has no sign to keep.
-/
def integer? (n : Numeral) : Option Int :=
  let value : Int :=
    if n.negative then -n.significand else n.significand
  if n.decimals = [] ∧ n.exponent = none ∧
      ¬ (n.negative ∧ n.significand = 0) ∧
      FitsWord value then
    some value
  else
    none

end Numeral

/- A way to convert written numbers to binary values. -/
abbrev Conversion : Type :=
  Numeral → Binary64

/- The number that was written, if it is in range. -/
def Numeral.toJson?
    (convert : Conversion)
    (n : Numeral) : Option Json :=
  match n.integer? with
  | some value => some (.integer value)
  | none =>
      if (convert n).IsFinite then
        some (.float (convert n))
      else
        none

------------------------------------------------------------
-- Reading Numbers
------------------------------------------------------------

/- What is wrong where a digit is missing. -/
def missingDigit : List Char → ReadError
| [] => .endInValue
| _ :: _ => .invalidNumber

/- A run of digits, of which there is at least one. -/
def readDigits : Reader (List Char) := fun input =>
  match input.takeWhile Char.isDigit with
  | [] => .error (missingDigit input)
  | digits => .ok (digits, input.dropWhile Char.isDigit)

/- The digits before the point; a zero leads no other. -/
def readWholePart : Reader (List Char) := fun input =>
  match readDigits input with
  | .ok ('0' :: _ :: _, _) => .error .invalidNumber
  | result => result

/- A point and the decimals, or nothing. -/
def readDecimals : Reader (List Char)
| '.' :: input => readDigits input
| input => .ok ([], input)

/- The sign of an exponent: whether it is negative. -/
def exponentSign : List Char → Bool × List Char
| '-' :: input => (true, input)
| '+' :: input => (false, input)
| input => (false, input)

/- The letter and the exponent, or nothing. -/
def readExponent : Reader (Option Int)
| c :: input =>
    if c = 'e' ∨ c = 'E' then
      let (negative, input) := exponentSign input
      match readDigits input with
      | .error e => .error e
      | .ok (digits, rest) =>
          let size : Int := natOfDigits digits
          .ok (some (if negative then -size else size), rest)
    else
      .ok (none, c :: input)
| [] => .ok (none, [])

/- The sign of a number: whether it is negative. -/
def numberSign : List Char → Bool × List Char
| '-' :: input => (true, input)
| input => (false, input)

/- The parts of a number. -/
def readNumeral : Reader Numeral := fun input => do
  let (negative, input) := numberSign input
  let (whole, input) ← readWholePart input
  let (decimals, input) ← readDecimals input
  let (exponent, input) ← readExponent input
  return (⟨negative, whole, decimals, exponent⟩, input)

/- A number. -/
def readNumber
    (convert : Conversion) : Reader Json := fun input => do
  let (numeral, rest) ← readNumeral input
  match numeral.toJson? convert with
  | some number => return (number, rest)
  | none => .error .numberOutOfRange

end Json

end Registrar
