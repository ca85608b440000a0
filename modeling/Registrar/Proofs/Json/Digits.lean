import Registrar.Proofs.Json.Numerals
import Registrar.Proofs.Numeric.Digits

/-
  This file proves that numbers that are written can be read.
  The text of a binary value is that of a numeral, with or
  without an exponent, which denotes the digits chosen for the
  value.

  Key definitions include:
    * `Json.Numeral.Denotes`
    * `Digits.numeral`
    * `Digits.wireNumeral`
    * `Binary64.numeral`
    * `Binary64.wireNumeral`

  Main statements:
    * `Digits.withSign_positional`
    * `Digits.withSign_wire`
    * `Binary64.plainText_eq`
    * `Binary64.toBinary64_numeral`
    * `Binary64.toBinary64_wireNumeral`
    * `Json.readNumber_wireCharacters`
    * `Json.readNumber_integer`
-/

------------------------------------------------------------
-- What Numerals Denote
------------------------------------------------------------

namespace Registrar

-- Powers up to 2^2098 occur; none of them is to be computed.
attribute [local irreducible] twoTo fiveTo tenTo

namespace Json

namespace Numeral

/- A numeral denotes digits if they differ in zeros at the end. -/
def Denotes (n : Numeral) (d : Digits) : Prop :=
  ∃ k,
    n.significand = d.significand * tenTo k ∧
    n.exponent.getD 0 - n.decimals.length = d.exponent - k

/- What a numeral denotes has its value. -/
theorem Denotes.toBinary64_eq
    {n : Numeral}
    {d : Digits}
    (h : n.Denotes d) :
    n.toBinary64 = d.toBinary64 n.negative := by
  rcases h with ⟨k, hSignificand, hExponent⟩
  unfold toBinary64 Digits.toBinary64
  rw [hSignificand, hExponent, Binary64.ofScientific_mul_tenTo]

/- A numeral with decimals or exponent is no whole number. -/
theorem integer?_eq_none
    {n : Numeral}
    (h : n.decimals ≠ [] ∨ n.exponent ≠ none) :
    n.integer? = none := by
  apply if_neg
  rintro ⟨hDecimals, hExponent, -⟩
  exact h.elim (· hDecimals) (· hExponent)

end Numeral

end Json

------------------------------------------------------------
-- Digits As Numerals
------------------------------------------------------------

namespace Digits

/- The digits without an exponent, as a numeral. -/
def numeral
    (negative : Bool)
    (d : Digits) : Json.Numeral :=
  let digits := d.characters
  if 0 ≤ d.exponent then
    ⟨negative, digits ++ List.replicate d.exponent.toNat '0',
      [], none⟩
  else
    let places := (-d.exponent).toNat
    if places < digits.length then
      ⟨negative, digits.take (digits.length - places),
        digits.drop (digits.length - places), none⟩
    else
      ⟨negative, ['0'],
        List.replicate (places - digits.length) '0' ++ digits,
        none⟩

/- The digits as a numeral that is not a whole number. -/
def wireNumeral
    (negative : Bool)
    (d : Digits) : Json.Numeral :=
  if -5 ≤ d.lead ∧ d.lead ≤ 15 then
    if 0 ≤ d.exponent then
      { d.numeral negative with decimals := ['0'] }
    else
      d.numeral negative
  else
    ⟨negative, d.characters.take 1, d.characters.drop 1,
      some d.lead⟩

theorem length_characters_pos (d : Digits) :
    0 < d.characters.length :=
  Nat.length_toDigits_pos

/- A point that stands between digits has some behind it. -/
private theorem drop_characters_ne_nil
    {d : Digits}
    (h : ¬ 0 ≤ d.exponent) :
    d.characters.drop
      (d.characters.length - (-d.exponent).toNat) ≠ [] := by
  have hSome := d.length_characters_pos
  rw [Ne, List.drop_eq_nil_iff]
  omega

/- The text without an exponent is that of the numeral. -/
theorem withSign_positional
    (negative : Bool)
    (d : Digits) :
    Binary64.withSign negative d.positional =
      (d.numeral negative).characters := by
  unfold positional numeral Json.Numeral.characters
    Json.Numeral.decimalCharacters
    Json.Numeral.exponentCharacters
  dsimp only
  split
  · simp
  · next hNegative =>
      split
      · simp [drop_characters_ne_nil hNegative]
      · simp [List.ne_nil_of_length_pos d.length_characters_pos]

/- The text in a document is that of the numeral there. -/
theorem withSign_wire
    (negative : Bool)
    (d : Digits) :
    Binary64.withSign negative d.wire =
      (d.wireNumeral negative).characters := by
  unfold wire wireNumeral
  split
  · split
    · next hWhole =>
        simp [positional, numeral, hWhole,
          Json.Numeral.characters,
          Json.Numeral.decimalCharacters,
          Json.Numeral.exponentCharacters]
    · exact d.withSign_positional negative
  · unfold withExponent pointed Json.Numeral.characters
    split <;> simp_all [Json.Numeral.decimalCharacters,
      Json.Numeral.exponentCharacters]

section Numerals

variable {d : Digits}
variable (negative : Bool)

private theorem head?_characters_ne
    (h : d.significand ≠ 0) :
    d.characters.head? ≠ some '0' :=
  head?_toDigits_ne h

private theorem characters_zero
    (h : d.significand = 0) :
    d.characters = ['0'] := by
  unfold characters
  rw [h]
  rfl

private theorem areDigits_characters (d : Digits) :
    AreDigits d.characters :=
  areDigits_toDigits d.significand

/-
  Digits are a numeral, unless they are a zero that is followed
  by zeros.
-/
theorem isWellFormed_numeral
    (h : d.significand = 0 → d.exponent ≤ 0) :
    (d.numeral negative).IsWellFormed := by
  have hSome := List.ne_nil_of_length_pos
    d.length_characters_pos
  have hDigits := areDigits_characters d
  unfold numeral
  dsimp only
  split
  · next hWhole =>
      refine ⟨hDigits.append (areDigits_zeros _), ?_, ?_, ?_⟩
      · simp [hSome]
      · intro hZero
        by_cases hSignificand : d.significand = 0
        · have hExponent : d.exponent = 0 := by
            have := h hSignificand
            omega
          simp [characters_zero hSignificand, hExponent]
        · rw [List.head?_append_of_ne_nil _ hSome] at hZero
          exact absurd hZero (head?_characters_ne hSignificand)
      · exact List.forall_mem_nil _
  · split
    · next hNegative hPlaces =>
        have hSplit : d.characters.length -
            (-d.exponent).toNat ≠ 0 := by
          omega
        refine ⟨fun c hMem => hDigits c (List.mem_of_mem_take hMem),
          ?_, ?_,
          fun c hMem => hDigits c (List.mem_of_mem_drop hMem)⟩
        · simp [hSome, hSplit]
        · intro hZero
          rw [List.head?_take, if_neg hSplit] at hZero
          by_cases hSignificand : d.significand = 0
          · rw [characters_zero hSignificand,
              List.length_singleton] at hPlaces
            omega
          · exact absurd hZero (head?_characters_ne hSignificand)
    · refine ⟨areDigits_zeros 1, List.cons_ne_nil _ _,
        fun _ => rfl, ?_⟩
      exact (areDigits_zeros _).append hDigits

/- Zeros up to the point are written out. -/
theorem significand_numeral (d : Digits) :
    (d.numeral negative).significand =
      d.significand * tenTo d.exponent.toNat := by
  have hCharacters : Json.natOfDigits d.characters =
      d.significand :=
    Json.natOfDigits_toDigits d.significand
  unfold numeral
  dsimp only
  split
  · simp [Json.Numeral.significand,
      Json.natOfDigits_append_zeros, hCharacters]
  · next hNegative =>
      have hExponent : d.exponent.toNat = 0 := by omega
      rw [hExponent, tenTo_zero, Nat.mul_one, ← hCharacters]
      split
      · simp [Json.Numeral.significand]
      · exact (Json.natOfDigits_zeros_append 1 _).trans
          (Json.natOfDigits_zeros_append _ _)

/- An exponent below zero is the number of decimals. -/
theorem length_decimals_numeral (d : Digits) :
    (d.numeral negative).decimals.length =
      (-d.exponent).toNat := by
  unfold numeral
  dsimp only
  split
  · rw [List.length_nil]
    omega
  · split
    · rw [List.length_drop]
      omega
    · rw [List.length_append, List.length_replicate]
      omega

/- The numeral keeps the sign. -/
theorem negative_numeral (d : Digits) :
    (d.numeral negative).negative = negative := by
  unfold numeral
  dsimp only
  split
  · rfl
  · split <;> rfl

/- The numeral has no exponent. -/
theorem exponent_numeral (d : Digits) :
    (d.numeral negative).exponent = none := by
  unfold numeral
  dsimp only
  split
  · rfl
  · split <;> rfl

/- The numeral denotes the digits. -/
theorem denotes_numeral (d : Digits) :
    (d.numeral negative).Denotes d := by
  refine ⟨d.exponent.toNat, d.significand_numeral negative, ?_⟩
  rw [d.exponent_numeral negative,
    d.length_decimals_numeral negative, Option.getD_none]
  omega

/-
  Digits in a document are a numeral, which denotes them and is
  not a whole number.
-/
theorem isWellFormed_wireNumeral
    (h : d.significand = 0 → d.exponent ≤ 0) :
    (d.wireNumeral negative).IsWellFormed := by
  have hPlain := d.isWellFormed_numeral negative h
  unfold wireNumeral
  split
  · split
    · exact ⟨hPlain.whole_digits, hPlain.whole_ne_nil,
        hPlain.whole_head, areDigits_zeros 1⟩
    · exact hPlain
  · have hDigits := areDigits_characters d
    have hSome := List.ne_nil_of_length_pos
      d.length_characters_pos
    refine ⟨fun c hMem => hDigits c (List.mem_of_mem_take hMem),
      ?_, ?_, fun c hMem => hDigits c (List.mem_of_mem_drop hMem)⟩
    · simp [hSome]
    · cases hCharacters : d.characters with
      | nil => exact absurd hCharacters hSome
      | cons c cs => simp

theorem denotes_wireNumeral (d : Digits) :
    (d.wireNumeral negative).Denotes d := by
  have hCharacters : Json.natOfDigits d.characters =
      d.significand :=
    Json.natOfDigits_toDigits d.significand
  have hPlain := d.denotes_numeral negative
  unfold wireNumeral
  split
  · split
    · next hWhole =>
        refine ⟨d.exponent.toNat + 1, ?_, ?_⟩
        · have hZero : ['0'] = List.replicate 1 '0' := rfl
          simp only [numeral, hWhole, if_true,
            Json.Numeral.significand, List.append_assoc, hZero,
            List.replicate_append_replicate,
            Json.natOfDigits_append_zeros, hCharacters]
        · simp only [numeral, hWhole, if_true, Option.getD_none,
            List.length_singleton]
          omega
    · exact hPlain
  · have hSome := d.length_characters_pos
    refine ⟨0, ?_, ?_⟩
    · rw [Json.Numeral.significand, List.take_append_drop,
        hCharacters, tenTo_zero, Nat.mul_one]
    · simp only [lead, Option.getD_some, List.length_drop]
      omega

theorem integer?_wireNumeral (d : Digits) :
    (d.wireNumeral negative).integer? = none := by
  apply Json.Numeral.integer?_eq_none
  unfold wireNumeral
  split
  · split
    · exact .inl (List.cons_ne_nil _ _)
    · next hNegative =>
        apply Or.inl (List.ne_nil_of_length_pos _)
        rw [d.length_decimals_numeral negative]
        omega
  · exact .inr (Option.some_ne_none _)

theorem negative_wireNumeral (d : Digits) :
    (d.wireNumeral negative).negative = negative := by
  unfold wireNumeral
  split
  · split <;> exact d.negative_numeral negative
  · rfl

end Numerals

end Digits

------------------------------------------------------------
-- Written Numbers
------------------------------------------------------------

/- Of all digits that are chosen only those of zero are zero. -/
theorem Binary64.exponent_shortest_of_zero
    {rule : TieRule}
    {units : Nat}
    (h : Representable units)
    (hZero : (shortest rule units).significand = 0) :
    (shortest rule units).exponent ≤ 0 := by
  have hValue := toBinary64_shortest rule false h
  unfold Digits.toBinary64 ofScientific at hValue
  rw [hZero] at hValue
  simp only [true_or, if_true, Binary64.finite.injEq] at hValue
  have hDigits : shortest rule units = ⟨0, 0⟩ :=
    if_pos hValue.2.symm
  simp [hDigits]

namespace Binary64

/-
  The plain text of a value as a numeral.  What is not finite is
  written without digits; zero stands for it.
-/
def numeral : Binary64 → Json.Numeral
| .finite negative units _ =>
    (shortest .awayFromZero units).numeral negative
| _ => ⟨false, ['0'], [], none⟩

/- Plain text has no exponent. -/
theorem exponent_numeral (x : Binary64) :
    x.numeral.exponent = none := by
  cases x with
  | nan => rfl
  | infinite negative => rfl
  | finite negative units hUnits =>
      exact (shortest .awayFromZero units).exponent_numeral
        negative

/- A finite value is written as its numeral. -/
theorem plainText_eq
    {x : Binary64}
    (h : x.IsFinite) :
    x.plainText = String.ofList x.numeral.characters := by
  cases x with
  | nan => cases h
  | infinite negative => cases h
  | finite negative units hUnits =>
      rw [plainText, Digits.withSign_positional]
      rfl

/- The numeral of a finite value has this value. -/
theorem toBinary64_numeral
    {x : Binary64}
    (h : x.IsFinite) :
    x.numeral.toBinary64 = x := by
  cases x with
  | nan => cases h
  | infinite negative => cases h
  | finite negative units hUnits =>
      let d := shortest .awayFromZero units
      exact (d.denotes_numeral negative).toBinary64_eq.trans
        ((congrArg d.toBinary64 (d.negative_numeral negative)).trans
          (toBinary64_shortest .awayFromZero negative hUnits))

/-
  The text of a value in a document as a numeral; zero stands
  for what is not finite.
-/
def wireNumeral : Binary64 → Json.Numeral
| .finite negative units _ =>
    (shortest .toEven units).wireNumeral negative
| _ => ⟨false, ['0'], ['0'], none⟩

/- The numeral in a document has the value, too. -/
theorem toBinary64_wireNumeral
    {x : Binary64}
    (h : x.IsFinite) :
    x.wireNumeral.toBinary64 = x := by
  cases x with
  | nan => cases h
  | infinite negative => cases h
  | finite negative units hUnits =>
      let d := shortest .toEven units
      have hSign := d.negative_wireNumeral negative
      exact (d.denotes_wireNumeral negative).toBinary64_eq.trans
        ((congrArg d.toBinary64 hSign).trans
          (toBinary64_shortest .toEven negative hUnits))

end Binary64

namespace Json

variable {convert : Conversion} {rest : List Char}

/-
  A finite value is read from its text if the conversion gives
  it back.
-/
theorem readNumber_wireCharacters
    {x : Binary64}
    (h : x.IsFinite)
    (hBack : convert x.wireNumeral = x)
    (hRest : EndsNumeral rest) :
    readNumber convert (x.wireCharacters ++ rest) =
      .ok (.float x, rest) := by
  cases x with
  | nan => cases h
  | infinite negative => cases h
  | finite negative units hUnits =>
      let d := Binary64.shortest .toEven units
      have hWritten : (d.wireNumeral negative).IsWellFormed :=
        d.isWellFormed_wireNumeral negative
          (Binary64.exponent_shortest_of_zero hUnits)
      have hNumber : (d.wireNumeral negative).toJson? convert =
          some (.float (.finite negative units hUnits)) := by
        unfold Numeral.toJson?
        rw [d.integer?_wireNumeral negative]
        dsimp only [Binary64.wireNumeral] at hBack
        simp only [d, hBack]
        exact if_pos h
      rw [Binary64.wireCharacters, d.withSign_wire negative]
      exact readNumber_characters hWritten hNumber hRest

/- A whole number that fits 64 bits is read from its text. -/
theorem readNumber_integer
    {value : Int}
    (h : FitsWord value)
    (hRest : EndsNumeral rest) :
    readNumber convert ((integer value).characters ++ rest) =
      .ok (.integer value, rest) := by
  let n : Numeral :=
    ⟨decide (value < 0), Nat.toDigits 10 value.natAbs, [], none⟩
  have hText : (integer value).characters = n.characters := by
    simp [characters, Numeral.characters,
      Numeral.decimalCharacters, Numeral.exponentCharacters, n]
  have hWritten : n.IsWellFormed := by
    refine ⟨areDigits_toDigits _, Nat.toDigits_ne_nil, ?_,
      List.forall_mem_nil _⟩
    intro hZero
    by_cases hValue : value.natAbs = 0
    · simp only [n, hValue]
      rfl
    · exact absurd hZero (head?_toDigits_ne hValue)
  have hSignificand : n.significand = value.natAbs := by
    simp [Numeral.significand, n, natOfDigits_toDigits]
  have hSigned : (if n.negative then
      -(n.significand : Int) else n.significand) = value := by
    rw [hSignificand]
    by_cases hSign : value < 0
    · rw [if_pos (decide_eq_true hSign)]
      omega
    · rw [if_neg fun hNegative =>
        hSign (of_decide_eq_true hNegative)]
      omega
  have hZero : ¬ (n.negative = true ∧ n.significand = 0) := by
    simp only [hSignificand, n, decide_eq_true_eq]
    omega
  have hInteger : n.integer? = some value := by
    unfold Numeral.integer?
    simp only [hSigned]
    exact if_pos ⟨rfl, rfl, hZero, h⟩
  have hNumber :
      n.toJson? convert = some (.integer value) := by
    unfold Numeral.toJson?
    rw [hInteger]
  rw [hText]
  exact readNumber_characters hWritten hNumber hRest

end Json

end Registrar
