import Mathlib.Data.List.Induction
import Registrar.Query.Pattern

/-
  This file proves from which texts patterns are read: exactly
  from the texts of the patterns that are well formed, which are
  the texts without an asterisk between their first and their
  last character.

  Key definitions include:
    * `Pattern.IsWellFormed`

  Main statements:
    * `Pattern.parse_eq_some_iff`
    * `Pattern.exists_parse_eq_some_iff`
-/

------------------------------------------------------------
-- Patterns That Are Read
------------------------------------------------------------

namespace Registrar

namespace Pattern

/-
  A pattern that can be told from its text.  No asterisk is part
  of its body, and a lone one opens the start.
-/
structure IsWellFormed (p : Pattern) : Prop where
  asterisk_notMem : '*' ∉ p.body
  openStart_of_lone :
    p.body = [] → p.openEnd = true → p.openStart = true

private theorem splitStart_of_head?_ne
    {cs : List Char}
    (h : cs.head? ≠ some '*') :
    splitStart cs = (false, cs) := by
  unfold splitStart
  split
  · exact absurd rfl h
  · rfl

private theorem splitEnd_append_asterisk
    {body : List Char}
    (openEnd : Bool)
    (h : '*' ∉ body) :
    splitEnd (body ++ asterisk openEnd) = (openEnd, body) := by
  cases openEnd with
  | true => simp [splitEnd, asterisk]
  | false =>
      have hLast : body.getLast? ≠ some '*' := fun hEq =>
        h (List.mem_of_getLast? hEq)
      simp [splitEnd, asterisk, hLast]

/- The characters of a pattern are taken apart again. -/
private theorem ofCharacters?_characters
    {p : Pattern}
    (h : p.IsWellFormed) :
    ofCharacters? p.characters = some p := by
  rcases p with ⟨openStart, openEnd, body⟩
  rcases h with ⟨hBody, hLone⟩
  dsimp only at hBody hLone
  have hStart :
      splitStart (characters ⟨openStart, openEnd, body⟩) =
        (openStart, body ++ asterisk openEnd) := by
    cases openStart with
    | true => rfl
    | false =>
        apply splitStart_of_head?_ne
        cases body with
        | nil =>
            cases openEnd with
            | true => exact absurd (hLone rfl rfl) (by decide)
            | false => decide
        | cons c rest =>
            intro hHead
            apply hBody
            have hEq : c = '*' := by
              simpa [characters, asterisk] using hHead
            rw [hEq]
            exact List.mem_cons_self
  unfold ofCharacters?
  rw [hStart]
  dsimp only
  rw [splitEnd_append_asterisk openEnd hBody]
  simp [hBody]

/- A lone asterisk is not taken for an open end. -/
private theorem splitStart_of_splitEnd
    {cs rest : List Char}
    {openStart : Bool}
    (hStart : splitStart cs = (openStart, rest))
    (hEnd : splitEnd rest = (true, [])) :
    openStart = true := by
  by_cases hHead : cs.head? = some '*'
  · rcases List.head?_eq_some_iff.mp hHead with ⟨others, rfl⟩
    exact (Prod.mk.inj hStart).1.symm
  · rw [splitStart_of_head?_ne hHead] at hStart
    rcases Prod.mk.inj hStart with ⟨-, rfl⟩
    unfold splitEnd at hEnd
    split at hEnd
    · next hLast =>
        rcases List.getLast?_eq_some_iff.mp hLast with
          ⟨front, rfl⟩
        rw [List.dropLast_concat] at hEnd
        rcases Prod.mk.inj hEnd with ⟨-, rfl⟩
        exact absurd rfl hHead
    · cases hEnd

/- What is taken apart is well formed. -/
private theorem isWellFormed_of_ofCharacters?
    {cs : List Char}
    {p : Pattern}
    (h : ofCharacters? cs = some p) :
    p.IsWellFormed := by
  unfold ofCharacters? at h
  rcases hStart : splitStart cs with ⟨openStart, rest⟩
  rcases hEnd : splitEnd rest with ⟨openEnd, body⟩
  rw [hStart] at h
  dsimp only at h
  rw [hEnd] at h
  rcases Option.ite_none_left_eq_some.mp h with ⟨hBody, hEq⟩
  cases hEq
  refine ⟨hBody, ?_⟩
  rintro rfl rfl
  exact splitStart_of_splitEnd hStart hEnd

/- A pattern's text is read as the pattern, and no other is. -/
theorem parse_eq_some_iff
    {input : String}
    {p : Pattern} :
    parse input = some p ↔ input = p.text ∧ p.IsWellFormed := by
  constructor
  · intro h
    exact ⟨(text_of_parse h).symm,
      isWellFormed_of_ofCharacters? h⟩
  · rintro ⟨rfl, h⟩
    unfold parse text
    rw [String.toList_ofList]
    exact ofCharacters?_characters h

------------------------------------------------------------
-- Texts That Are Read
------------------------------------------------------------

/- Setting a last asterisk aside leaves those before it. -/
private theorem asterisk_mem_splitEnd_iff
    (cs : List Char) :
    '*' ∈ (splitEnd cs).2 ↔ '*' ∈ cs.dropLast := by
  unfold splitEnd
  split
  · exact Iff.rfl
  · next hLast =>
      cases cs using List.reverseRecOn with
      | nil => exact Iff.rfl
      | append_singleton front c =>
          have hNe : ¬ '*' = c := by
            rintro rfl
            exact hLast List.getLast?_concat
          simp [hNe]

/-
  A text can be read as a pattern if no asterisk is left once its
  first and its last character are set aside.
-/
theorem exists_parse_eq_some_iff {input : String} :
    (∃ p, parse input = some p) ↔
      '*' ∉ input.toList.tail.dropLast := by
  have hRead : ∀ cs : List Char,
      (∃ p, ofCharacters? cs = some p) ↔
        '*' ∉ (splitStart cs).2.dropLast := by
    intro cs
    rw [← asterisk_mem_splitEnd_iff]
    unfold ofCharacters?
    simp
  unfold parse
  rw [hRead]
  generalize input.toList = cs
  match cs with
  | [] => exact Iff.rfl
  | c :: rest =>
      by_cases hStar : c = '*'
      · subst hStar
        exact Iff.rfl
      · have hHead : (c :: rest).head? ≠ some '*' := by
          simpa using hStar
        have hNe : ¬ '*' = c := fun hBack => hStar hBack.symm
        rw [splitStart_of_head?_ne hHead]
        cases rest with
        | nil => simp
        | cons d others => simp [hNe]

end Pattern

end Registrar
