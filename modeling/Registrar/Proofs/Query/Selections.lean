import Registrar.Proofs.Json.Decoding
import Registrar.Proofs.Query.Names

/-
  This file proves from which documents sortings and selections
  are read.

  A decoded document states a sorting exactly if it is the
  document of a sorting by columns that are shown.  It states a
  selection if it names the columns, each of them perhaps
  several times, since repeated ones are left out.

  Key definitions include:
    * `Selection.IsWellFormed`
    * `Selection.membersShowing`

  Main statements:
    * `Json.someTexts_eq_ok_iff`
    * `Sorting.ofJson_eq_ok_iff`
    * `Selection.ofJson_eq_ok_iff`
-/

------------------------------------------------------------
-- Strings Of Documents
------------------------------------------------------------

namespace Registrar

namespace Json

private theorem textEntries_eq_ok_iff
    {part : String}
    {items : List Json}
    {strings : List String} :
    textEntries part items = .ok strings ↔
      items = strings.map .text := by
  induction items generalizing strings with
  | nil => cases strings <;> simp [textEntries]
  | cons item rest ih =>
      unfold textEntries
      split
      · next hNone =>
          cases strings with
          | nil => simp
          | cons s strings =>
              constructor
              · intro h
                cases h
              · intro h
                rw [(List.cons.inj h).1] at hNone
                cases hNone
      · next s hSome =>
          have hItem := text?_eq_some_iff.mp hSome
          rw [bind_eq_ok_iff]
          constructor
          · rintro ⟨others, hOthers, hEq⟩
            rw [← Except.ok.inj hEq, hItem, ih.mp hOthers]
            rfl
          · intro h
            cases strings with
            | nil => cases h
            | cons t strings =>
                rcases List.cons.inj h with ⟨hHead, hTail⟩
                refine ⟨strings, ih.mpr hTail, ?_⟩
                rw [hItem, Json.text.injEq] at hHead
                rw [hHead]
                rfl

/- Strings are read from the array of them. -/
theorem texts_eq_ok_iff
    {part : String}
    {document : Json}
    {strings : List String} :
    document.texts part = .ok strings ↔
      document = ofTexts strings := by
  unfold texts ofTexts
  cases document <;>
    simp [list?, textEntries_eq_ok_iff]

/- The array is not empty if there must be strings. -/
theorem someTexts_eq_ok_iff
    {part : String}
    {document : Json}
    {strings : List String} :
    document.someTexts part = .ok strings ↔
      document = ofTexts strings ∧ strings ≠ [] := by
  unfold someTexts
  rw [bind_eq_ok_iff]
  simp only [texts_eq_ok_iff]
  constructor
  · rintro ⟨found, rfl, h⟩
    split at h
    · cases h
    · next hSome =>
        cases h
        refine ⟨rfl, ?_⟩
        rintro rfl
        exact hSome rfl
  · rintro ⟨rfl, hNe⟩
    refine ⟨strings, rfl, ?_⟩
    have hSome : strings.isEmpty = false :=
      List.isEmpty_eq_false_iff.mpr hNe
    rw [hSome]
    rfl

end Json

/- Columns are read from their texts. -/
theorem Column.mapM_ofText_eq_ok_iff
    {names : List String}
    {columns : List Column} :
    names.mapM Column.ofText = .ok columns ↔
      names = columns.map Column.text ∧
        ∀ column ∈ columns, column.IsWellFormed :=
  mapM_eq_ok_iff_map fun _ _ => Column.ofText_eq_ok_iff

------------------------------------------------------------
-- Sortings
------------------------------------------------------------

namespace Sorting

private theorem shownColumn_eq_ok_iff
    {shown : List String}
    {name : String}
    {column : Column} :
    shownColumn shown name = .ok column ↔
      name = column.text ∧
        column.text ∈ shown ∧ column.IsWellFormed := by
  unfold shownColumn
  split
  · next hShown =>
      rw [Column.ofText_eq_ok_iff]
      constructor
      · rintro ⟨rfl, hColumn⟩
        exact ⟨rfl, hShown, hColumn⟩
      · rintro ⟨rfl, -, hColumn⟩
        exact ⟨rfl, hColumn⟩
  · next hHidden =>
      constructor
      · intro h
        cases h
      · rintro ⟨rfl, hShown, -⟩
        exact absurd hShown hHidden

private theorem directionOf_eq_some_iff
    {members : Directory Json}
    {direction : Direction} :
    directionOf members = some direction ↔
      Directory.find? "dir" members =
        some (.text direction.word) := by
  unfold directionOf
  split
  · next word hWord =>
      rcases Option.bind_eq_some_iff.mp hWord with
        ⟨document, hFind, hDocument⟩
      rw [hFind, Json.text?_eq_some_iff.mp hDocument,
        Option.some.injEq, Json.text.injEq]
      by_cases hUp : word = Direction.up.word
      · subst hUp
        cases direction <;> decide
      · by_cases hDown : word = Direction.down.word
        · subst hDown
          cases direction <;> decide
        · cases direction <;> simp [hUp, hDown]
  · next hNone =>
      constructor
      · intro h
        cases h
      · intro hFind
        rw [hFind] at hNone
        cases hNone

/-
  Of two members that are expected one is the columns to order
  by, so that no sorting is refused for want of them.
-/
theorem isSome_find?_keys
    {members : Directory Json}
    (hAscending : members.Ascending)
    (hTwo : members.length = 2)
    (hExpected :
      members.unexpected? ["dir", "keys"] = none) :
    (Directory.find? "keys" members).isSome := by
  have hMembers := Directory.eq_of_unexpected?_eq_none
    hAscending (by decide) hExpected
  cases hKeys : Directory.find? "keys" members with
  | some document => rfl
  | none =>
      have hShort :
          (Directory.entriesOf ["dir", "keys"] members).length ≤
            ["dir"].length := by
        rw [Directory.entriesOf, List.filterMap_cons]
        cases Directory.find? "dir" members <;> simp [hKeys]
      rw [← hMembers, hTwo] at hShort
      simp at hShort

/- Columns to order by are read from their texts. -/
private theorem mapM_shownColumn_eq_ok_iff
    {shown names : List String}
    {columns : List Column} :
    names.mapM (shownColumn shown) = .ok columns ↔
      names = columns.map Column.text ∧
        ∀ column ∈ columns,
          column.text ∈ shown ∧ column.IsWellFormed :=
  mapM_eq_ok_iff_map fun _ _ => shownColumn_eq_ok_iff

/- A direction and columns are read from a pair of members. -/
private theorem ofMembers_eq_ok_iff
    {shown : List String}
    {members : Directory Json}
    {sorting : Sorting}
    (hAscending : members.Ascending) :
    ofMembers shown members = .ok sorting ↔
      ∃ direction columns,
        sorting = .several direction columns ∧
        members =
          [("dir", .text direction.word),
            ("keys", Column.listToJson columns)] ∧
        columns ≠ [] ∧
        ∀ column ∈ columns,
          column.text ∈ shown ∧ column.IsWellFormed := by
  constructor
  · intro h
    unfold ofMembers at h
    split at h
    · cases h
    · next hExpected =>
        split at h
        · cases h
        · next direction hDirection =>
            split at h
            · cases h
            · next document hDocument =>
                rcases bind_eq_ok_iff.mp h with
                  ⟨names, hNames, hRest⟩
                rcases bind_eq_ok_iff.mp hRest with
                  ⟨columns, hColumns, hEq⟩
                rcases Json.someTexts_eq_ok_iff.mp hNames with
                  ⟨rfl, hNe⟩
                rcases mapM_shownColumn_eq_ok_iff.mp hColumns with
                  ⟨rfl, hShown⟩
                have hMembers :=
                  Directory.eq_of_unexpected?_eq_none
                    hAscending (by decide) hExpected
                refine ⟨direction, columns,
                  (Except.ok.inj hEq).symm, ?_, ?_, hShown⟩
                · rw [hMembers]
                  simp [Directory.entriesOf, hDocument,
                    directionOf_eq_some_iff.mp hDirection,
                    Column.listToJson]
                · rintro rfl
                  exact hNe rfl
  · rintro ⟨direction, columns, rfl, rfl, hNe, hShown⟩
    have hDirection :
        directionOf
          [("dir", Json.text direction.word),
            ("keys", Column.listToJson columns)] =
          some direction :=
      directionOf_eq_some_iff.mpr rfl
    have hNames :
        (Column.listToJson columns).someTexts "ORDER keys" =
          .ok (columns.map Column.text) := by
      apply Json.someTexts_eq_ok_iff.mpr
      exact ⟨rfl, by simpa using hNe⟩
    have hColumns :=
      mapM_shownColumn_eq_ok_iff.mpr ⟨rfl, hShown⟩
    unfold ofMembers
    rw [hDirection]
    simp [Directory.unexpected?, Directory.names,
      Directory.find?, hNames, hColumns]

/-
  A sorting by columns that are shown is read from its own
  document only.
-/
theorem ofJson_eq_ok_iff
    {shown : List String}
    {document : Json}
    {sorting : Sorting}
    (hDecoded : document.Decoded) :
    ofJson shown document = .ok sorting ↔
      document = sorting.toJson ∧ sorting.columns ≠ [] ∧
        ∀ column ∈ sorting.columns,
          column.text ∈ shown ∧ column.IsWellFormed := by
  constructor
  · intro h
    cases document with
    | text name =>
        rcases bind_eq_ok_iff.mp h with ⟨column, hColumn, hEq⟩
        cases hEq
        rcases shownColumn_eq_ok_iff.mp hColumn with
          ⟨rfl, hShown⟩
        refine ⟨rfl, List.cons_ne_nil _ _, ?_⟩
        exact List.forall_mem_singleton.mpr hShown
    | object members =>
        rw [Json.Decoded] at hDecoded
        dsimp only [ofJson] at h
        split at h
        · rcases (ofMembers_eq_ok_iff hDecoded.1).mp h with
            ⟨direction, columns, rfl, rfl, hRest⟩
          exact ⟨rfl, hRest⟩
        · cases h
    | _ => cases h
  · rintro ⟨rfl, hNe, hShown⟩
    cases sorting with
    | single column =>
        have hColumn := shownColumn_eq_ok_iff.mpr
          ⟨rfl, hShown column (List.mem_singleton_self column)⟩
        simp [toJson, ofJson, hColumn]
    | several direction columns =>
        rw [toJson, Json.Decoded] at hDecoded
        exact (ofMembers_eq_ok_iff hDecoded.1).mpr
          ⟨direction, columns, rfl, rfl, hNe, hShown⟩

end Sorting

------------------------------------------------------------
-- Selections
------------------------------------------------------------

namespace Selection

/-
  A selection of different columns, ordered by some of them if
  it is ordered.
-/
structure IsWellFormed (selection : Selection) : Prop where
  columns_ne_nil : selection.columns ≠ []
  columns_wellFormed :
    ∀ column ∈ selection.columns, column.IsWellFormed
  texts_nodup : (selection.columns.map Column.text).Nodup
  sorting_ne_nil :
    ∀ sorting ∈ selection.sorting, sorting.columns ≠ []
  sorting_subset :
    selection.sortingColumns ⊆ selection.columns

/- The members of a selection that names columns so. -/
def membersShowing
    (shown : List String)
    (selection : Selection) : Directory Json :=
  ("COLUMNS", Json.ofTexts shown) ::
    (selection.sorting.map fun sorting =>
      ("ORDER", sorting.toJson)).toList

/- A selection's own document names its columns. -/
theorem toJson_eq (selection : Selection) :
    selection.toJson =
      .object (selection.membersShowing
        (selection.columns.map Column.text)) := by
  rcases selection with ⟨columns, _ | sorting⟩ <;> rfl

/- The sorting of members, if there is one. -/
private theorem sortingOf_eq_ok_iff
    {shown : List String}
    {members : Directory Json}
    {sorting : Option Sorting}
    (hDecoded : Json.DecodedMembers members) :
    sortingOf shown members = .ok sorting ↔
      Directory.find? "ORDER" members =
          sorting.map Sorting.toJson ∧
        ∀ order ∈ sorting, order.columns ≠ [] ∧
          ∀ column ∈ order.columns,
            column.text ∈ shown ∧ column.IsWellFormed := by
  unfold sortingOf
  split
  · next hNone =>
      rw [hNone]
      cases sorting <;> simp
  · next document hDocument =>
      have hOrder := Json.decoded_of_mem hDecoded
        (Directory.mem_of_find? hDocument)
      rw [hDocument, bind_eq_ok_iff]
      simp only [Sorting.ofJson_eq_ok_iff hOrder]
      constructor
      · rintro ⟨order, ⟨rfl, hAll⟩, hEq⟩
        cases hEq
        exact ⟨rfl, by simpa using hAll⟩
      · rintro ⟨hEq, hAll⟩
        cases sorting with
        | none => cases hEq
        | some order =>
            refine ⟨order, ⟨Option.some.inj hEq, ?_⟩, rfl⟩
            exact hAll order rfl

private theorem sorting_subset_of_shown
    {shown : List String}
    {columns : List Column}
    {sorting : Option Sorting}
    (hShown : shown.eraseDups = columns.map Column.text)
    (hColumns : ∀ column ∈ columns, column.IsWellFormed)
    (hSorting : ∀ order ∈ sorting, ∀ column ∈ order.columns,
      column.text ∈ shown ∧ column.IsWellFormed) :
    (Selection.mk columns sorting).sortingColumns ⊆
      columns := by
  intro column hMem
  cases sorting with
  | none => cases hMem
  | some order =>
      rcases hSorting order rfl column hMem with
        ⟨hText, hColumn⟩
      rw [← List.mem_eraseDups, hShown] at hText
      rcases List.mem_map.mp hText with ⟨other, hOther, hEq⟩
      rw [← Column.text_inj (hColumns other hOther) hColumn hEq]
      exact hOther

/- A selection is read from members that name its columns. -/
private theorem ofMembers_eq_ok_iff
    {members : Directory Json}
    {selection : Selection}
    (hAscending : members.Ascending)
    (hDecoded : Json.DecodedMembers members) :
    ofMembers members = .ok selection ↔
      selection.IsWellFormed ∧
        ∃ shown,
          shown.eraseDups = selection.columns.map Column.text ∧
          members = selection.membersShowing shown := by
  constructor
  · intro h
    unfold ofMembers at h
    split at h
    · cases h
    · next hExpected =>
        split at h
        · cases h
        · next document hDocument =>
            rcases bind_eq_ok_iff.mp h with
              ⟨shown, hShown, hRest⟩
            rcases bind_eq_ok_iff.mp hRest with
              ⟨columns, hColumns, hLast⟩
            rcases bind_eq_ok_iff.mp hLast with
              ⟨sorting, hSorting, hEq⟩
            cases hEq
            rcases Json.someTexts_eq_ok_iff.mp hShown with
              ⟨rfl, hNe⟩
            rcases Column.mapM_ofText_eq_ok_iff.mp hColumns with
              ⟨hTexts, hNamed⟩
            rcases (sortingOf_eq_ok_iff hDecoded).mp hSorting with
              ⟨hOrder, hOrdered⟩
            have hMembers :=
              Directory.eq_of_unexpected?_eq_none
                hAscending (by decide) hExpected
            refine ⟨⟨?_, hNamed, ?_, ?_, ?_⟩, shown, hTexts, ?_⟩
            · rintro rfl
              apply hNe
              apply List.eq_nil_iff_forall_not_mem.mpr
              intro name hMem
              rw [← List.mem_eraseDups, hTexts] at hMem
              cases hMem
            · rw [← hTexts]
              exact nodup_eraseDups shown
            · exact fun order hMem => (hOrdered order hMem).1
            · exact sorting_subset_of_shown hTexts hNamed
                fun order hMem => (hOrdered order hMem).2
            · rw [hMembers]
              cases sorting <;>
                simp [Directory.entriesOf, membersShowing,
                  hDocument, hOrder]
  · rintro ⟨hSelection, shown, hShown, rfl⟩
    rcases selection with ⟨columns, sorting⟩
    have hSorting :
        sortingOf shown
            (membersShowing shown ⟨columns, sorting⟩) =
          .ok sorting := by
      apply (sortingOf_eq_ok_iff hDecoded).mpr
      refine ⟨?_, ?_⟩
      · cases sorting <;> simp [membersShowing, Directory.find?]
      · rintro order rfl
        refine ⟨hSelection.sorting_ne_nil order rfl, ?_⟩
        intro column hMem
        have hColumn := hSelection.sorting_subset hMem
        refine ⟨?_, hSelection.columns_wellFormed _ hColumn⟩
        rw [← List.mem_eraseDups, hShown]
        exact List.mem_map_of_mem hColumn
    have hNames :
        (Json.ofTexts shown).someTexts "COLUMNS" =
          .ok shown := by
      apply Json.someTexts_eq_ok_iff.mpr
      refine ⟨rfl, ?_⟩
      rintro rfl
      exact hSelection.columns_ne_nil
        (List.map_eq_nil_iff.mp hShown.symm)
    have hColumns :
        shown.eraseDups.mapM Column.ofText = .ok columns :=
      Column.mapM_ofText_eq_ok_iff.mpr
        ⟨hShown, hSelection.columns_wellFormed⟩
    have hExpected :
        Directory.unexpected? ["COLUMNS", "ORDER"]
          (membersShowing shown ⟨columns, sorting⟩) = none := by
      cases sorting <;>
        simp [membersShowing, Directory.unexpected?,
          Directory.names]
    have hFound :
        Directory.find? "COLUMNS"
          (membersShowing shown ⟨columns, sorting⟩) =
          some (Json.ofTexts shown) := by
      simp [membersShowing, Directory.find?]
    unfold ofMembers
    rw [hExpected, hFound]
    simp only [hNames, hColumns, hSorting, ok_bind]
    rfl

/-
  A selection is read from the documents that name its columns,
  each of them perhaps several times.
-/
theorem ofJson_eq_ok_iff
    {document : Json}
    {selection : Selection}
    (hDecoded : document.Decoded) :
    ofJson document = .ok selection ↔
      selection.IsWellFormed ∧
        ∃ shown,
          shown.eraseDups = selection.columns.map Column.text ∧
          document =
            .object (selection.membersShowing shown) := by
  cases document with
  | object members =>
      rw [Json.Decoded] at hDecoded
      simp only [ofJson, Json.object.injEq]
      exact ofMembers_eq_ok_iff hDecoded.1 hDecoded.2
  | _ => simp [ofJson]

end Selection

end Registrar
