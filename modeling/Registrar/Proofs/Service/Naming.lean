import Registrar.Proofs.Query.Names
import Registrar.Proofs.Service.Catalogs

/-
  This file proves that queries and catalogs agree on what can
  name a data set.  The id and the field of a key are read off
  its text, so that no two keys and no computed value share a
  text; and the ids that keys name are those that catalogs
  admit, as long as these are free.

  Main statements:
    * `Key.parse_eq_ok_iff_exists`
    * `Column.exists_applied_iff`
    * `Catalog.add_of_isDataSetId`
    * `Key.parse_agreesWithCatalogs`
-/

------------------------------------------------------------
-- Keys And Columns As They Are Written
------------------------------------------------------------

namespace Registrar

/- A key is read from an id, an underscore and a field's name. -/
theorem Key.parse_eq_ok_iff_exists
    {input : String}
    {key : Key} :
    parse input = .ok key ↔
      ∃ id label, input = id ++ "_" ++ label ∧
        IsDataSetId id ∧ Field.parse label = some key.field ∧
        id = key.dataSet := by
  rw [parse_eq_ok_iff]
  constructor
  · rintro ⟨rfl, hId⟩
    exact ⟨key.dataSet, key.field.label, rfl, hId,
      key.field.parse_label, rfl⟩
  · rintro ⟨_, label, rfl, hId, hLabel, rfl⟩
    refine ⟨?_, hId⟩
    rw [text, Field.parse_eq_some_iff.mp hLabel]

namespace Column

/- Texts without underscores are names, but for the empty one. -/
theorem exists_applied_iff {input : String} :
    (∃ name, parse input = .ok (.applied name)) ↔
      input ≠ "" ∧ '_' ∉ input.toList := by
  simp only [parse_eq_ok_iff]
  constructor
  · rintro ⟨name, rfl, hName⟩
    exact hName
  · exact fun hName => ⟨input, rfl, hName⟩

/- Columns that are read from texts differ in these. -/
theorem text_inj_of_parse
    {input other : String}
    {a b : Column}
    (ha : parse input = .ok a)
    (hb : parse other = .ok b)
    (h : a.text = b.text) :
    a = b :=
  text_inj (parse_eq_ok_iff.mp ha).2 (parse_eq_ok_iff.mp hb).2 h

end Column

------------------------------------------------------------
-- Ids That Catalogs Admit
------------------------------------------------------------

namespace Catalog

variable
  {catalog next : Catalog} {id : String} {kind : Kind}
  {records : List Record}

/- What has been added has an id that a data set can have. -/
theorem isDataSetId_of_add
    (h : catalog.add id kind records = .ok next) :
    IsDataSetId id := by
  rw [add_eq_addRead] at h
  exact (addRead_eq_ok_iff.mp h).1

/- Such an id is refused only where it is taken. -/
theorem add_of_isDataSetId
    (hId : IsDataSetId id) :
    (catalog.get? id = none →
      ∃ next, catalog.add id kind records = .ok next) ∧
    (catalog.get? id ≠ none →
      catalog.add id kind records = .error (.idTaken id)) := by
  rw [← Option.isSome_iff_ne_none, ← Option.not_isSome_iff_eq_none,
    ← mem_ids_iff, add_eq_addRead]
  refine ⟨fun hFree => ?_, fun hTaken => ?_⟩
  · exact ⟨_, addRead_eq_ok_iff.mpr
      ⟨hId, hFree, records, rfl, rfl⟩⟩
  · simp [addRead, hId, hTaken]

end Catalog

------------------------------------------------------------
-- Keys And Catalogs
------------------------------------------------------------

/-
  A key is read from the text of an id and a field, a name from a
  text without underscores, and nothing else is; both are written
  as they were read, and no two of them alike.  Each field of a
  data set that has been added can be named, and what a key names
  could be added, unless it is there.
-/
theorem Key.parse_agreesWithCatalogs :
    (∀ input key, Key.parse input = .ok key ↔
      ∃ id label, input = id ++ "_" ++ label ∧
        IsDataSetId id ∧ Field.parse label = some key.field ∧
        id = key.dataSet) ∧
    (∀ input key, Key.parse input = .ok key →
      key.text = input) ∧
    (∀ input,
      (∃ name, Column.parse input = .ok (.applied name)) ↔
        input ≠ "" ∧ '_' ∉ input.toList) ∧
    (∀ input column, Column.parse input = .ok column →
      column.text = input) ∧
    (∀ input other a b,
      Column.parse input = .ok a → Column.parse other = .ok b →
        (a = b ↔ input = other) ∧ (a = b ↔ a.text = b.text)) ∧
    (∀ input other name key,
      Column.parse input = .ok (.applied name) →
      Column.parse other = .ok (.stored key) →
        name ≠ key.text) ∧
    (∀ (catalog next : Catalog) id kind records,
      catalog.add id kind records = .ok next →
        ∀ field : Field,
          Key.parse (id ++ "_" ++ field.label) =
            .ok ⟨id, field⟩) ∧
    ∀ input key, Key.parse input = .ok key →
      ∀ (catalog : Catalog) kind records,
        (catalog.get? key.dataSet = none →
          ∃ next,
            catalog.add key.dataSet kind records = .ok next) ∧
        (catalog.get? key.dataSet ≠ none →
          catalog.add key.dataSet kind records =
            .error (.idTaken key.dataSet)) := by
  have hText : ∀ input column,
      Column.parse input = .ok column → column.text = input :=
    fun input column h => (Column.parse_eq_ok_iff.mp h).1.symm
  refine ⟨fun input key => parse_eq_ok_iff_exists,
    fun input key h => (parse_eq_ok_iff.mp h).1.symm,
    fun input => Column.exists_applied_iff, hText, ?_, ?_, ?_, ?_⟩
  · intro input other a b ha hb
    have hSame : a = b ↔ a.text = b.text :=
      ⟨congrArg Column.text, Column.text_inj_of_parse ha hb⟩
    refine ⟨?_, hSame⟩
    rw [hSame, hText input a ha, hText other b hb]
  · intro input other name key ha hb hEq
    cases Column.text_inj_of_parse ha hb hEq
  · intro catalog next id kind records h field
    exact parse_eq_ok_iff.mpr
      ⟨rfl, Catalog.isDataSetId_of_add h⟩
  · intro input key h catalog kind records
    exact Catalog.add_of_isDataSetId (parse_eq_ok_iff.mp h).2

/-
  Blanks around an id are part of it, in a catalog as in a key;
  an id of blanks only is neither admitted nor read.
-/
theorem Key.parse_agreesWithCatalogs_blanks :
    let id := "\u00a0x "
    Catalog.empty.add id .rooms [] =
      .ok ⟨[(id, ⟨id, .rooms, []⟩)]⟩ ∧
    Key.parse "\u00a0x _seats" = .ok ⟨id, .seats⟩ ∧
    Catalog.empty.add "\u3000" .rooms [] =
      .error (.wrongId "\u3000") ∧
    ¬ ∃ input field, Key.parse input = .ok ⟨"\u3000", field⟩ := by
  intro id
  have hAdd : Catalog.empty.add id .rooms [] =
      .ok ⟨[(id, ⟨id, .rooms, []⟩)]⟩ := by
    decide +kernel
  have hRefused : Catalog.empty.add "\u3000" .rooms [] =
      .error (.wrongId "\u3000") := by
    decide +kernel
  rcases parse_agreesWithCatalogs with
    ⟨-, -, -, -, -, -, hNamed, hAdmitted⟩
  refine ⟨hAdd, hNamed _ _ id _ _ hAdd .seats, hRefused, ?_⟩
  rintro ⟨input, field, h⟩
  rcases (hAdmitted input _ h Catalog.empty .rooms []).1 rfl with
    ⟨next, hNext⟩
  cases hRefused.symm.trans hNext

end Registrar
