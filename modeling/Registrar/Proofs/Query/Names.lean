import Mathlib.Data.List.TakeWhile
import Registrar.Proofs.Sequences
import Registrar.Query.Selection

/-
  This file proves that keys and columns are read exactly from
  the texts that they are written as.

  Key definitions include:
    * `Key.IsWellFormed`
    * `Column.IsWellFormed`

  Main statements:
    * `Key.split?_eq_some_iff`
    * `Key.parse_eq_ok_iff`
    * `Key.parseIn_eq_ok_iff`
    * `Column.parse_eq_ok_iff`
    * `Column.text_inj`
-/

------------------------------------------------------------
-- Texts With One Underscore
------------------------------------------------------------

namespace Registrar

namespace Key

/- A text with one underscore is what stands around it. -/
theorem split?_eq_some_iff
    {input id label : String} :
    split? input = some (id, label) ↔
      input = id ++ "_" ++ label ∧
        '_' ∉ id.toList ∧ '_' ∉ label.toList := by
  have hText : ∀ cs ds : List Char,
      input.toList = cs ++ '_' :: ds ↔
        input = String.ofList cs ++ "_" ++ String.ofList ds := by
    intro cs ds
    rw [← String.toList_inj]
    simp
  constructor
  · intro h
    unfold split? at h
    split at h
    · cases h
    · next c rest hDrop =>
        rcases Option.ite_none_left_eq_some.mp h with
          ⟨hRest, hEq⟩
        rcases Prod.mk.inj (Option.some.inj hEq) with ⟨rfl, rfl⟩
        have hUnderscore : c = '_' := by
          have hHead := List.head?_dropWhile_not
            (· != '_') input.toList
          simpa [hDrop] using hHead
        refine ⟨?_, ?_, ?_⟩
        · subst hUnderscore
          rw [← hText, ← hDrop]
          exact List.takeWhile_append_dropWhile.symm
        · intro hMem
          rw [String.toList_ofList] at hMem
          have hNot := List.mem_takeWhile_imp hMem
          simp at hNot
        · rw [String.toList_ofList]
          exact hRest
  · rintro ⟨rfl, hId, hLabel⟩
    have hBefore : ∀ c ∈ id.toList, (c != '_') = true := by
      intro c hMem
      have hNe : c ≠ '_' := fun hEq => hId (hEq ▸ hMem)
      simpa using hNe
    have hSplit :
        (id ++ "_" ++ label).toList =
          id.toList ++ '_' :: label.toList := by
      simp
    unfold split?
    rw [hSplit, List.dropWhile_append_of_pos hBefore,
      List.takeWhile_append_of_pos hBefore]
    simp [hLabel]

------------------------------------------------------------
-- Keys
------------------------------------------------------------

/- A key whose id can name a data set. -/
def IsWellFormed (key : Key) : Prop :=
  IsDataSetId key.dataSet

private theorem underscore_notMem_label (field : Field) :
    '_' ∉ field.label.toList := by
  cases field <;> decide

/- A key's text is read as the key, and no other text is. -/
theorem parse_eq_ok_iff
    {input : String}
    {key : Key} :
    parse input = .ok key ↔
      input = key.text ∧ key.IsWellFormed := by
  constructor
  · intro h
    unfold parse at h
    split at h
    · cases h
    · next id label hSplit =>
        split at h
        · next hId =>
            split at h
            · next field hField =>
                cases h
                rcases split?_eq_some_iff.mp hSplit with
                  ⟨hEq, -, -⟩
                refine ⟨?_, hId⟩
                unfold text
                rw [Field.parse_eq_some_iff.mp hField]
                exact hEq
            · cases h
        · cases h
  · rintro ⟨rfl, hId⟩
    have hSplit :
        split? key.text = some (key.dataSet, key.field.label) :=
      split?_eq_some_iff.mpr
        ⟨rfl, hId.1, underscore_notMem_label key.field⟩
    have hWellFormed : IsDataSetId key.dataSet := hId
    simp [parse, hSplit, hWellFormed, Field.parse_label]

/- A key of a domain is read from the key's text only. -/
theorem parseIn_eq_ok_iff
    {domain : Domain}
    {input : String}
    {key : Key} :
    parseIn domain input = .ok key ↔
      input = key.text ∧ key.IsWellFormed ∧
        key.field.domain = domain := by
  rw [← and_assoc, ← parse_eq_ok_iff]
  unfold parseIn
  split
  · next e hError => simp [hError]
  · next found hFound =>
      rw [hFound, Except.ok.injEq]
      split
      · next hDomain =>
          rw [Except.ok.injEq]
          constructor
          · rintro rfl
            exact ⟨rfl, hDomain⟩
          · exact And.left
      · next hOther =>
          constructor
          · intro h
            cases h
          · rintro ⟨rfl, hDomain⟩
            exact absurd hDomain hOther

/- A key's string is read as the key, and no other one is. -/
theorem ofText_eq_ok_iff
    {input : String}
    {key : Key} :
    ofText input = .ok key ↔
      input = key.text ∧ key.IsWellFormed := by
  rw [← parse_eq_ok_iff]
  unfold ofText
  split <;> simp_all

/- The text of a key has an underscore. -/
theorem underscore_mem_text (key : Key) :
    '_' ∈ key.text.toList := by
  unfold text
  simp

end Key

------------------------------------------------------------
-- Columns
------------------------------------------------------------

namespace Column

/- A column that can be named in a query. -/
def IsWellFormed : Column → Prop
| .stored key => key.IsWellFormed
| .applied name => IsAppliedName name

/- A column's text is read as the column, and no other is. -/
theorem parse_eq_ok_iff
    {input : String}
    {column : Column} :
    parse input = .ok column ↔
      input = column.text ∧ column.IsWellFormed := by
  unfold parse
  split
  · next hUnderscore =>
      cases column with
      | stored key =>
          apply Iff.trans ?_ Key.parse_eq_ok_iff
          split <;> simp_all
      | applied name =>
          constructor
          · intro h
            split at h <;> cases h
          · rintro ⟨rfl, hName⟩
            exact absurd hUnderscore hName.2
  · next hNone =>
      cases column with
      | stored key =>
          constructor
          · intro h
            split at h <;> cases h
          · rintro ⟨rfl, -⟩
            exact absurd key.underscore_mem_text hNone
      | applied name =>
          constructor
          · intro h
            split at h
            · cases h
            · next hNe =>
                cases h
                exact ⟨rfl, hNe, hNone⟩
          · rintro ⟨rfl, hName⟩
            have hNe : input ≠ "" := hName.1
            simp [hNe]

/- A column's string is read as the column, and no other. -/
theorem ofText_eq_ok_iff
    {input : String}
    {column : Column} :
    ofText input = .ok column ↔
      input = column.text ∧ column.IsWellFormed := by
  rw [← parse_eq_ok_iff]
  unfold ofText
  split <;> simp_all

/- Columns that can be named differ in their texts. -/
theorem text_inj
    {a b : Column}
    (ha : a.IsWellFormed)
    (hb : b.IsWellFormed)
    (h : a.text = b.text) :
    a = b := by
  have hRead := parse_eq_ok_iff.mpr ⟨rfl, ha⟩
  rw [h, parse_eq_ok_iff.mpr ⟨rfl, hb⟩] at hRead
  exact (Except.ok.inj hRead).symm

end Column

end Registrar
