import Mathlib.Computability.Language
import Registrar.Proofs.Query.Patterns

/-
  This file proves what patterns mean.  A text that is read as a
  pattern is a glob: an asterisk stands for any characters, even
  for none, and every other character stands for itself.  A
  pattern accepts exactly the texts that its glob stands for.

  Key definitions include:
    * `Glob.language`
    * `Pattern.Surrounds`

  Main statements:
    * `Glob.mem_language_characters_iff`
    * `Pattern.accepts_iff_surrounds`
    * `Pattern.parse_isGlob`
-/

------------------------------------------------------------
-- Globs
------------------------------------------------------------

namespace Registrar

namespace Glob

/- What a character of a glob stands for. -/
def meaning (c : Char) : Language Char :=
  if c = '*' then ⊤ else {[c]}

/-
  What a glob stands for: its characters' meanings, one after
  the other.
-/
def language (glob : List Char) : Language Char :=
  (glob.map meaning).prod

/- A glob stands for what its two parts stand for in turn. -/
theorem language_append (front back : List Char) :
    language (front ++ back) = language front * language back := by
  unfold language
  rw [List.map_append, List.prod_append]

/- Without asterisks a glob stands for itself only. -/
theorem language_of_notMem
    {cs : List Char}
    (h : '*' ∉ cs) :
    language cs = {cs} := by
  induction cs with
  | nil => rfl
  | cons c rest ih =>
      rw [List.mem_cons, not_or] at h
      have hSelf : meaning c = {[c]} := if_neg (Ne.symm h.1)
      have hCons : language (c :: rest) =
          meaning c * language rest := List.prod_cons
      rw [hCons, hSelf, ih h.2]
      exact Set.image2_singleton

/- Only an asterisk stands for more than the empty text. -/
theorem mem_language_asterisk_iff
    {present : Bool}
    {cs : List Char} :
    cs ∈ language (Pattern.asterisk present) ↔
      cs = [] ∨ present = true := by
  cases present with
  | false => simp [Pattern.asterisk, language]
  | true =>
      have hAll : language (Pattern.asterisk true) = ⊤ :=
        mul_one _
      rw [hAll]
      exact iff_of_true (Set.mem_univ cs) (.inr rfl)

end Glob

------------------------------------------------------------
-- Patterns As Globs
------------------------------------------------------------

namespace Pattern

/-
  The body of a pattern stands in a text, and there is something
  before it or after it only where the pattern is open.
-/
def Surrounds
    (p : Pattern)
    (cs : List Char) : Prop :=
  ∃ before after,
    (before = [] ∨ p.openStart = true) ∧
    (after = [] ∨ p.openEnd = true) ∧
    before ++ (p.body ++ after) = cs

/- A body occurs where it is an infix. -/
theorem occursIn_iff
    {body cs : List Char} :
    occursIn body cs = true ↔ body <:+: cs := by
  induction cs with
  | nil => simp [occursIn]
  | cons c rest ih =>
      rw [occursIn, Bool.or_eq_true, ih, List.infix_cons_iff,
        List.isPrefixOf_iff_prefix]

/- A pattern accepts the texts that surround its body. -/
theorem accepts_iff_surrounds
    {p : Pattern}
    {s : String} :
    p.accepts s = true ↔ p.Surrounds s.toList := by
  -- A closed side is empty, which leaves the library's notions of
  -- a front part, a back part and a part of a list.
  rcases p with ⟨openStart, openEnd, body⟩
  cases openStart <;> cases openEnd
  case false.false =>
    simpa [accepts, shape, Surrounds] using eq_comm
  case false.true =>
    simp [accepts, shape, Surrounds, List.IsPrefix]
  case true.false =>
    simp [accepts, shape, Surrounds, List.IsSuffix]
  case true.true =>
    simp [accepts, shape, Surrounds, occursIn_iff, List.IsInfix]

end Pattern

/- A glob of a pattern stands for what surrounds its body. -/
theorem Glob.mem_language_characters_iff
    {p : Pattern}
    {cs : List Char}
    (h : '*' ∉ p.body) :
    cs ∈ language p.characters ↔ p.Surrounds cs := by
  unfold Pattern.characters Pattern.Surrounds
  rw [language_append, language_append, language_of_notMem h]
  simp only [Language.mem_mul, mem_language_asterisk_iff]
  constructor
  · rintro ⟨before, hBefore, _, ⟨_, rfl, after, hAfter, rfl⟩, hEq⟩
    exact ⟨before, after, hBefore, hAfter, hEq⟩
  · rintro ⟨before, after, hBefore, hAfter, hEq⟩
    exact ⟨before, hBefore, _, ⟨_, rfl, after, hAfter, rfl⟩, hEq⟩

------------------------------------------------------------
-- Texts As Globs
------------------------------------------------------------

namespace Pattern

/- What is neither the first nor the last of some characters. -/
private theorem mem_inner_iff
    {c : Char}
    {cs : List Char} :
    c ∈ cs.tail.dropLast ↔
      ∃ i, 0 < i ∧ i + 1 < cs.length ∧ cs[i]? = some c := by
  -- Without the first character all places are one less.
  simp only [List.mem_iff_getElem?, List.getElem?_dropLast,
    List.getElem?_tail, List.length_tail]
  constructor
  · rintro ⟨i, h⟩
    rcases Option.ite_none_right_eq_some.mp h with ⟨hLt, hGet⟩
    exact ⟨i + 1, Nat.succ_pos i, by omega, hGet⟩
  · rintro ⟨i, hPos, hLt, hGet⟩
    refine ⟨i - 1, ?_⟩
    rw [if_pos (by omega), Nat.sub_add_cancel hPos]
    exact hGet

/-
  A text is no pattern if and only if an asterisk of it is neither
  its first nor its last character.  A pattern that is read has
  the text as its own, is read from it again, and accepts a text
  if and only if the glob stands for it.
-/
theorem parse_isGlob (input : String) :
    (parse input = none ↔
      ∃ i, 0 < i ∧ i + 1 < input.toList.length ∧
        input.toList[i]? = some '*') ∧
    ∀ p, parse input = some p →
      p.text = input ∧
      parse p.text = some p ∧
      ∀ s : String, p.accepts s = true ↔
        s.toList ∈ Glob.language input.toList := by
  refine ⟨?_, ?_⟩
  · rw [Option.eq_none_iff_forall_ne_some, ← mem_inner_iff,
      ← not_iff_not, not_forall_not]
    exact exists_parse_eq_some_iff
  · intro p h
    rcases parse_eq_some_iff.mp h with ⟨rfl, hWellFormed⟩
    refine ⟨rfl, h, fun s => ?_⟩
    rw [accepts_iff_surrounds, text, String.toList_ofList]
    exact (Glob.mem_language_characters_iff
      hWellFormed.asterisk_notMem).symm

/-
  Two asterisks around a letter of two bytes stand for texts with
  that letter; an asterisk between letters cannot be read.
-/
theorem parse_isGlob_letters :
    parse "*é*" = some ⟨true, true, ['é']⟩ ∧
    "decaféiné".toList ∈ Glob.language "*é*".toList ∧
    "cafe".toList ∉ Glob.language "*é*".toList ∧
    parse "c*c" = none := by
  have hParse : parse "*é*" = some ⟨true, true, ['é']⟩ := by
    decide
  have hGlob := ((parse_isGlob "*é*").2 _ hParse).2.2
  refine ⟨hParse, ?_, ?_, ?_⟩
  · exact (hGlob "decaféiné").mp (by decide)
  · exact mt (hGlob "cafe").mpr (by decide)
  · exact (parse_isGlob "c*c").1.mpr ⟨1, by decide⟩

end Pattern

end Registrar
