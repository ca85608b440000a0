import Registrar.Json.Reader

/-
  This file reads strings: characters between quotes, with
  escapes.  A character beyond the first 65536 may be escaped
  as two code units, a leading and a trailing surrogate.

  Key definitions include:
    * `Json.shortEscape?`
    * `Json.codeUnit?`
    * `Json.joinUnit`
    * `Json.readCharacters`
    * `Json.readText`

  A character that needs no escape is read as it stands:
    * `Json.readCharacters_plain`
-/

------------------------------------------------------------
-- Escapes
------------------------------------------------------------

namespace Registrar

namespace Json

/- The character of an escape of one letter. -/
def shortEscape? : Char → Option Char
| '"' => some '"'
| '\\' => some '\\'
| '/' => some '/'
| 'b' => some '\x08'
| 'f' => some '\x0c'
| 'n' => some '\n'
| 'r' => some '\r'
| 't' => some '\t'
| _ => none

/- The value of a hexadecimal digit. -/
def hexValue? (c : Char) : Option Nat :=
  if c.isDigit then
    some (c.toNat - '0'.toNat)
  else if 'a' ≤ c ∧ c ≤ 'f' then
    some (c.toNat - 'a'.toNat + 10)
  else if 'A' ≤ c ∧ c ≤ 'F' then
    some (c.toNat - 'A'.toNat + 10)
  else
    none

/- The code unit that four hexadecimal digits denote. -/
def codeUnit? (a b c d : Char) : Option Nat := do
  let a ← hexValue? a
  let b ← hexValue? b
  let c ← hexValue? c
  let d ← hexValue? d
  return ((a * 16 + b) * 16 + c) * 16 + d

/- The first unit of a pair. -/
def IsLeading (unit : Nat) : Prop :=
  0xD800 ≤ unit ∧ unit < 0xDC00

instance (unit : Nat) : Decidable (IsLeading unit) := by
  unfold IsLeading
  infer_instance

/- The second unit of a pair. -/
def IsTrailing (unit : Nat) : Prop :=
  0xDC00 ≤ unit ∧ unit < 0xE000

instance (unit : Nat) : Decidable (IsTrailing unit) := by
  unfold IsTrailing
  infer_instance

/- The character of a leading and a trailing unit. -/
def pairedCharacter (leading trailing : Nat) : Char :=
  Char.ofNat
    (0x10000 + (leading - 0xD800) * 0x400 +
      (trailing - 0xDC00))

/- What a code unit comes to: a character, or half of one. -/
inductive Joined where
| character (c : Char)
| leading (unit : Nat)
deriving DecidableEq, Repr

/-
  A code unit after an unpaired leading one, if there is one.
-/
def joinUnit
    (pending : Option Nat)
    (unit : Nat) : Except ReadError Joined :=
  match pending with
  | some leading =>
      if IsTrailing unit then
        .ok (.character (pairedCharacter leading unit))
      else
        .error .loneSurrogate
  | none =>
      if IsTrailing unit then
        .error .loneSurrogate
      else if IsLeading unit then
        .ok (.leading unit)
      else
        .ok (.character (Char.ofNat unit))

/- What is wrong where four digits should follow. -/
def brokenUnit (input : List Char) : ReadError :=
  if (String.ofList input).utf8ByteSize < 4 then
    .endInText
  else
    .invalidEscape

------------------------------------------------------------
-- Strings
------------------------------------------------------------

/-
  The characters up to the closing quote.  After a leading
  code unit only the escape of a trailing one may follow.
-/
def readCharacters (pending : Option Nat) : Reader (List Char)
| [] => .error .endInText
| c :: input =>
    if c = '\\' then
      match input with
      | [] => .error .endInText
      | letter :: input =>
          if letter = 'u' then
            match input with
            | c₁ :: c₂ :: c₃ :: c₄ :: rest =>
                match codeUnit? c₁ c₂ c₃ c₄ with
                | none => .error .invalidEscape
                | some unit =>
                    match joinUnit pending unit with
                    | .error e => .error e
                    | .ok (.leading unit) =>
                        readCharacters (some unit) rest
                    | .ok (.character c) => do
                        let (cs, rest) ←
                          readCharacters none rest
                        return (c :: cs, rest)
            | short => .error (brokenUnit short)
          else if pending.isSome then
            .error .unpairedSurrogate
          else
            match shortEscape? letter with
            | none => .error .invalidEscape
            | some c => do
                let (cs, rest) ← readCharacters none input
                return (c :: cs, rest)
    else if pending.isSome then
      .error .unpairedSurrogate
    else if c = '"' then
      .ok ([], input)
    else if c.toNat < 32 then
      .error .controlCharacter
    else do
      let (cs, rest) ← readCharacters none input
      return (c :: cs, rest)

/- The rest of a string, after its opening quote. -/
def readText : Reader String := fun input => do
  let (cs, rest) ← readCharacters none input
  return (String.ofList cs, rest)

/- A character that needs no escape is read as it stands. -/
theorem readCharacters_plain
    {c : Char}
    {input cs rest : List Char}
    (hEscape : c ≠ '\\')
    (hQuote : c ≠ '"')
    (hControl : 32 ≤ c.toNat)
    (h : readCharacters none input = .ok (cs, rest)) :
    readCharacters none (c :: input) = .ok (c :: cs, rest) := by
  have hLow : ¬ c.toNat < 32 := by omega
  unfold readCharacters
  simp only [hEscape, hQuote, hLow, if_false,
    Option.isSome_none, Bool.false_eq_true]
  rw [h]
  rfl

end Json

end Registrar
