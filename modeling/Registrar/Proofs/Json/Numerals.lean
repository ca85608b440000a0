import Registrar.Json.Numeral
import Registrar.Json.Printer
import Registrar.Proofs.Sequences

/-
  This file proves that numerals that are written can be read.
  A numeral is read off its text up to a character that no
  number goes on with.

  Key definitions include:
    * `AreDigits`
    * `Json.Numeral.characters`
    * `Json.Numeral.IsWellFormed`
    * `Json.EndsNumeral`

  Main statements:
    * `Json.natOfDigits_toDigits`
    * `Json.readNumeral_characters`
    * `Json.readNumber_characters`
-/

------------------------------------------------------------
-- Decimal Digits
------------------------------------------------------------

namespace Registrar

namespace Json

private theorem natOfDigits_eq (digits : List Char) :
    natOfDigits digits = Nat.ofDigitChars 10 digits 0 := by
  unfold natOfDigits
  rw [Nat.ofDigitChars_eq_foldl]
  simp only [Nat.mul_comm]

/- The digits of a number denote it. -/
theorem natOfDigits_toDigits (n : Nat) :
    natOfDigits (Nat.toDigits 10 n) = n := by
  rw [natOfDigits_eq, Nat.ofDigitChars_ten_toDigits]

/- Zeros at the end multiply by a power of ten. -/
theorem natOfDigits_append_zeros
    (digits : List Char)
    (k : Nat) :
    natOfDigits (digits ++ List.replicate k '0') =
      natOfDigits digits * tenTo k := by
  rw [natOfDigits_eq, Nat.ofDigitChars_append,
    Nat.ofDigitChars_replicate_zero, natOfDigits_eq,
    Nat.mul_comm]
  unfold tenTo
  rfl

/- Zeros in front do not count. -/
theorem natOfDigits_zeros_append
    (k : Nat)
    (digits : List Char) :
    natOfDigits (List.replicate k '0' ++ digits) =
      natOfDigits digits := by
  rw [natOfDigits_eq, Nat.ofDigitChars_append,
    Nat.ofDigitChars_replicate_zero, Nat.mul_zero,
    natOfDigits_eq]

end Json

/- All characters are decimal digits. -/
def AreDigits (digits : List Char) : Prop :=
  ∀ c ∈ digits, c.isDigit = true

theorem areDigits_toDigits (n : Nat) :
    AreDigits (Nat.toDigits 10 n) :=
  fun _ hMem =>
    Nat.isDigit_of_mem_toDigits (by decide) (by decide) hMem

theorem areDigits_zeros (k : Nat) :
    AreDigits (List.replicate k '0') := by
  intro c hMem
  rw [List.eq_of_mem_replicate hMem]
  decide

theorem AreDigits.append
    {xs ys : List Char}
    (hLeft : AreDigits xs)
    (hRight : AreDigits ys) :
    AreDigits (xs ++ ys) :=
  List.forall_mem_append.mpr ⟨hLeft, hRight⟩

/- The digits of a number other than zero start with no zero. -/
theorem head?_toDigits_ne
    {n : Nat}
    (h : n ≠ 0) :
    (Nat.toDigits 10 n).head? ≠ some '0' := by
  induction n using Nat.strongRecOn with
  | ind n ih =>
      rw [Nat.toDigits_eq_if (by decide)]
      split
      · next hSmall =>
          have hEach : ∀ m < 10, m ≠ 0 →
              Nat.digitChar m ≠ '0' := by
            decide
          simpa using hEach n hSmall h
      · next hLarge =>
          have hQuotient : n / 10 ≠ 0 := by omega
          rw [List.head?_append_of_ne_nil _ Nat.toDigits_ne_nil]
          exact ih (n / 10) (by omega) hQuotient

------------------------------------------------------------
-- Numerals As Texts
------------------------------------------------------------

namespace Json

namespace Numeral

/- The text of a point and decimals, if there are any. -/
def decimalCharacters (decimals : List Char) : List Char :=
  if decimals = [] then [] else '.' :: decimals

/- The text of an exponent, whose sign is always written. -/
def exponentCharacters : Option Int → List Char
| none => []
| some exponent =>
    'e' :: (if 0 ≤ exponent then '+' else '-') ::
      Nat.toDigits 10 exponent.natAbs

/- The text of a numeral. -/
def characters (n : Numeral) : List Char :=
  Binary64.withSign n.negative
    (n.whole ++ (decimalCharacters n.decimals ++
      exponentCharacters n.exponent))

/-
  A numeral that can be written: it consists of digits, of which
  one at least stands before the point, and a zero leads no
  other digit there.
-/
structure IsWellFormed (n : Numeral) : Prop where
  whole_digits : AreDigits n.whole
  whole_ne_nil : n.whole ≠ []
  whole_head : n.whole.head? = some '0' → n.whole = ['0']
  decimals_digits : AreDigits n.decimals

end Numeral

/- A text that does not go on with a number. -/
def EndsNumeral (rest : List Char) : Prop :=
  ∀ c ∈ rest.head?,
    c.isDigit = false ∧ c ≠ '.' ∧ c ≠ 'e' ∧ c ≠ 'E'

/- No number goes on where the text ends. -/
theorem endsNumeral_nil : EndsNumeral [] := by
  intro c hMem
  cases hMem

section Reading

variable {rest : List Char}

/- A run of digits is read to its end. -/
theorem readDigits_append
    {digits : List Char}
    (hDigits : AreDigits digits)
    (hNe : digits ≠ [])
    (hRest : ∀ c ∈ rest.head?, c.isDigit = false) :
    readDigits (digits ++ rest) = .ok (digits, rest) := by
  have hTake : rest.takeWhile Char.isDigit = [] := by
    cases rest with
    | nil => rfl
    | cons c cs =>
        exact List.takeWhile_cons_of_neg (by simp [hRest c rfl])
  have hDrop : rest.dropWhile Char.isDigit = rest := by
    cases rest with
    | nil => rfl
    | cons c cs =>
        exact List.dropWhile_cons_of_neg (by simp [hRest c rfl])
  unfold readDigits
  rw [List.takeWhile_append_of_pos hDigits,
    List.dropWhile_append_of_pos hDigits, hTake, hDrop,
    List.append_nil]
  cases digits with
  | nil => exact absurd rfl hNe
  | cons c cs => rfl

private theorem readWholePart_append
    {n : Numeral}
    (h : n.IsWellFormed)
    (hRest : ∀ c ∈ rest.head?, c.isDigit = false) :
    readWholePart (n.whole ++ rest) = .ok (n.whole, rest) := by
  have hRead := readDigits_append h.whole_digits h.whole_ne_nil
    hRest
  unfold readWholePart
  rw [hRead]
  split
  · next second more after hSeveral =>
      have hWhole := (Prod.mk.inj (Except.ok.inj hSeveral)).1
      have hOne := h.whole_head
      rw [hWhole] at hOne
      cases hOne rfl
  · rfl

private theorem readDecimals_append
    {decimals : List Char}
    (hDigits : AreDigits decimals)
    (hRest : ∀ c ∈ rest.head?, c.isDigit = false ∧ c ≠ '.') :
    readDecimals (Numeral.decimalCharacters decimals ++ rest) =
      .ok (decimals, rest) := by
  unfold Numeral.decimalCharacters
  split
  · next hNil =>
      subst hNil
      unfold readDecimals
      split
      · next hPoint =>
          rw [List.nil_append] at hPoint
          exact absurd rfl (hRest '.' (by rw [hPoint]; rfl)).2
      · rfl
  · next hNe =>
      exact readDigits_append hDigits hNe
        fun c hMem => (hRest c hMem).1

private theorem readExponent_append
    {exponent : Option Int}
    (hRest : EndsNumeral rest) :
    readExponent (Numeral.exponentCharacters exponent ++ rest) =
      .ok (exponent, rest) := by
  cases exponent with
  | none =>
      cases rest with
      | nil => rfl
      | cons c cs =>
          rcases hRest c rfl with ⟨-, -, hLower, hUpper⟩
          simp [Numeral.exponentCharacters, readExponent, hLower,
            hUpper]
  | some exponent =>
      have hRead := readDigits_append
        (areDigits_toDigits exponent.natAbs)
        Nat.toDigits_ne_nil fun c hMem => (hRest c hMem).1
      by_cases hSign : 0 ≤ exponent
      · have hSize : (exponent.natAbs : Int) = exponent := by
          omega
        simp only [Numeral.exponentCharacters, List.cons_append,
          readExponent, true_or, if_true, hSign, exponentSign,
          hRead, natOfDigits_toDigits, Bool.false_eq_true,
          if_false, hSize]
      · have hSize : -(exponent.natAbs : Int) = exponent := by
          omega
        simp only [Numeral.exponentCharacters, List.cons_append,
          readExponent, true_or, if_true, hSign, exponentSign,
          hRead, natOfDigits_toDigits, if_false, hSize]

private theorem head?_exponentCharacters
    (exponent : Option Int)
    (hRest : EndsNumeral rest) :
    ∀ c ∈ (Numeral.exponentCharacters exponent ++ rest).head?,
      c.isDigit = false ∧ c ≠ '.' := by
  intro c hMem
  cases exponent with
  | none =>
      rcases hRest c hMem with ⟨hDigit, hPoint, -, -⟩
      exact ⟨hDigit, hPoint⟩
  | some exponent =>
      cases hMem
      decide

private theorem head?_decimalCharacters
    (decimals : List Char)
    (hRest : ∀ c ∈ rest.head?, c.isDigit = false ∧ c ≠ '.') :
    ∀ c ∈ (Numeral.decimalCharacters decimals ++ rest).head?,
      c.isDigit = false := by
  intro c hMem
  unfold Numeral.decimalCharacters at hMem
  split at hMem
  · exact (hRest c hMem).1
  · cases hMem
    decide

/- What starts with a digit has no sign. -/
private theorem numberSign_withSign
    (negative : Bool)
    {text : List Char}
    (h : ∀ c ∈ text.head?, c.isDigit = true) :
    numberSign (Binary64.withSign negative text) =
      (negative, text) := by
  cases negative with
  | true => rfl
  | false =>
      unfold Binary64.withSign numberSign
      split
      · next hMinus =>
          have hHead : '-' ∈ text.head? := by
            rw [show text = _ from hMinus]
            rfl
          exact absurd (h '-' hHead) (by decide)
      · rfl

/- A numeral is read off its text. -/
theorem readNumeral_characters
    {n : Numeral}
    (h : n.IsWellFormed)
    (hRest : EndsNumeral rest) :
    readNumeral (n.characters ++ rest) = .ok (n, rest) := by
  let later := Numeral.exponentCharacters n.exponent ++ rest
  let after := Numeral.decimalCharacters n.decimals ++ later
  have hLater :
      ∀ c ∈ later.head?, c.isDigit = false ∧ c ≠ '.' :=
    head?_exponentCharacters n.exponent hRest
  have hAfter : ∀ c ∈ after.head?, c.isDigit = false :=
    head?_decimalCharacters n.decimals hLater
  have hText : n.characters ++ rest =
      Binary64.withSign n.negative (n.whole ++ after) := by
    unfold Numeral.characters Binary64.withSign
    split <;>
      simp only [after, later, List.cons_append,
        List.append_assoc]
  have hSign : numberSign
      (Binary64.withSign n.negative (n.whole ++ after)) =
        (n.negative, n.whole ++ after) := by
    apply numberSign_withSign
    intro c hMem
    rw [List.head?_append_of_ne_nil _ h.whole_ne_nil] at hMem
    exact h.whole_digits c (List.mem_of_mem_head? hMem)
  have hWhole := readWholePart_append h hAfter
  have hDecimals : readDecimals after = .ok (n.decimals, later) :=
    readDecimals_append h.decimals_digits hLater
  have hExponent : readExponent later = .ok (n.exponent, rest) :=
    readExponent_append hRest
  unfold readNumeral
  rw [hText, hSign]
  exact bind_eq_ok_iff.mpr ⟨_, hWhole,
    bind_eq_ok_iff.mpr ⟨_, hDecimals,
      bind_eq_ok_iff.mpr ⟨_, hExponent, rfl⟩⟩⟩

/- A numeral is read as the number it stands for. -/
theorem readNumber_characters
    {convert : Conversion}
    {n : Numeral}
    {number : Json}
    (h : n.IsWellFormed)
    (hNumber : n.toJson? convert = some number)
    (hRest : EndsNumeral rest) :
    readNumber convert (n.characters ++ rest) =
      .ok (number, rest) := by
  apply bind_eq_ok_iff.mpr
  refine ⟨(n, rest), readNumeral_characters h hRest, ?_⟩
  simp only [hNumber]
  rfl

end Reading

end Json

end Registrar
