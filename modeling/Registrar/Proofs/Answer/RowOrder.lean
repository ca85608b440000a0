import Registrar.Collation.Order
import Registrar.Proofs.Answer.Typing
import Registrar.Proofs.Preorder

/-
  This file proves that the comparison of result rows is a total
  preorder, provided that the order of texts is one on those
  that the records hold.

  On any values it would not be: what is no number, and values
  of different domains, count as equal.  But within a column
  all values are numbers, or all are texts.

  Main statements:
    * `Column.compareBy_preordersOn`
    * `Row.comparePlaces_preordersOn`
    * `Row.compareBy_preordersOn`
    * `Query.rows_preordersOn`
-/

------------------------------------------------------------
-- Values Of A Column
------------------------------------------------------------

namespace Registrar

variable {retry : Decimal.Conversion}

variable {collate : TextOrder} {records : List Record}

/- The place of a number; what has none is put at zero. -/
private def placeOf : Value → Int
| .number x => x.rank.getD 0
| .text _ => 0

/- A value of a numeric column is a number with a place. -/
private theorem Column.Shows.exists_number
    {column : Column}
    {value : Value}
    (h : column.Shows records value)
    (hDomain : column.domain = .numeric) :
    ∃ x place, value = .number x ∧ x.rank = some place := by
  cases value with
  | text s => cases h.domain_eq.trans hDomain
  | number x =>
      rcases Binary64.exists_rank_iff.mpr h.not_isNan with
        ⟨place, hPlace⟩
      exact ⟨x, place, rfl, hPlace⟩

/- A value of a textual column is a text of the records. -/
private theorem Column.Shows.exists_text
    {column : Column}
    {value : Value}
    (h : column.Shows records value)
    (hDomain : column.domain = .textual) :
    ∃ s, value = .text s ∧ IsTextOf records s := by
  cases value with
  | number x => cases h.domain_eq.trans hDomain
  | text s => exact ⟨s, rfl, h.isTextOf s rfl⟩

/- The values that a column shows are ordered. -/
theorem Column.compareBy_preordersOn
    (column : Column)
    (hCollate : PreordersOn (IsTextOf records) collate) :
    PreordersOn (column.Shows records)
      (Value.compareBy collate) := by
  cases hDomain : column.domain with
  | numeric =>
      have hPlaces :
          PreordersOn (fun _ : Int => True) compare :=
        PreordersOn.of_transCmp
      apply hPlaces.of_comap (f := placeOf)
      · exact fun _ _ => trivial
      · intro a b ha hb
        rcases ha.exists_number hDomain with ⟨x, place, rfl, hX⟩
        rcases hb.exists_number hDomain with ⟨y, other, rfl, hY⟩
        simp [Value.compareBy, Binary64.compare?, placeOf,
          hX, hY]
  | textual =>
      apply hCollate.of_comap
        (f := fun value => value.text?.getD "")
      · intro value hShows
        rcases hShows.exists_text hDomain with ⟨s, rfl, hText⟩
        exact hText
      · intro a b ha hb
        rcases ha.exists_text hDomain with ⟨s, rfl, -⟩
        rcases hb.exists_text hDomain with ⟨t, rfl, -⟩
        rfl

------------------------------------------------------------
-- Rows Of One Query
------------------------------------------------------------

/- A row with a value for each of several columns. -/
def Row.Fits
    (records : List Record)
    (columns : List Column)
    (row : Row) : Prop :=
  List.Forall₂ (fun column value => column.Shows records value)
    columns row.values

namespace Row

variable {columns : List Column}

/- The values of a row are of the columns' domains. -/
theorem Fits.map_domain_eq
    {row : Row}
    (h : Row.Fits records columns row) :
    row.values.map Value.domain =
      columns.map Column.domain := by
  unfold Row.Fits at h
  generalize row.values = values at h
  induction h with
  | nil => rfl
  | cons hHead _ ih =>
      rw [List.map_cons, List.map_cons, hHead.domain_eq, ih]

/- No value of a row is what is no number. -/
theorem Fits.not_isNan
    {row : Row}
    (h : Row.Fits records columns row) :
    ∀ value ∈ row.values, ¬ value.IsNan := by
  intro value hMem
  rcases exists_left_of_forall₂ h hMem with ⟨column, -, hShows⟩
  exact hShows.not_isNan

/- Rows are ordered in each place, also in one beyond them. -/
theorem compareAt_preordersOn
    (hCollate : PreordersOn (IsTextOf records) collate)
    (place : Nat) :
    PreordersOn (Row.Fits records columns)
      (compareAt collate place) := by
  by_cases hPlace : place < columns.length
  · have hShows : ∀ row, Row.Fits records columns row →
        ∃ value, row.values[place]? = some value ∧
          columns[place].Shows records value := by
      intro row hFits
      have hLength : place < row.values.length :=
        hFits.length_eq ▸ hPlace
      exact ⟨row.values[place],
        List.getElem?_eq_getElem hLength,
        hFits.get hPlace hLength⟩
    apply (columns[place].compareBy_preordersOn hCollate).of_comap
      (f := fun row => (row.values[place]?).getD default)
    · intro row hFits
      rcases hShows row hFits with ⟨value, hValue, hColumn⟩
      simpa [hValue] using hColumn
    · intro a b ha hb
      rcases hShows a ha with ⟨x, hX, -⟩
      rcases hShows b hb with ⟨y, hY, -⟩
      simp [compareAt, hX, hY]
  · apply PreordersOn.undecided.of_comap (f := id)
      (P := fun _ => True)
    · exact fun _ _ => trivial
    · intro a b ha _
      have hBeyond : a.values[place]? = none := by
        apply List.getElem?_eq_none
        rw [← ha.length_eq]
        exact Nat.not_lt.mp hPlace
      simp [compareAt, hBeyond]

/- Rows are ordered by any list of places. -/
theorem comparePlaces_preordersOn
    (hCollate : PreordersOn (IsTextOf records) collate)
    (places : List Nat) :
    PreordersOn (Row.Fits records columns)
      (comparePlaces collate places) := by
  induction places with
  | nil => exact PreordersOn.undecided
  | cons place rest ih =>
      exact (compareAt_preordersOn hCollate place).thenBy ih

/- Rows are ordered in both directions. -/
theorem compareBy_preordersOn
    (hCollate : PreordersOn (IsTextOf records) collate)
    (direction : Direction)
    (places : List Nat) :
    PreordersOn (Row.Fits records columns)
      (compareBy collate direction places) := by
  have h : PreordersOn (Row.Fits records columns)
      (comparePlaces collate places) :=
    comparePlaces_preordersOn hCollate places
  cases direction with
  | up => exact h
  | down => exact h.flip

end Row

namespace Query

/- Each row of a query has a value for each of its columns. -/
theorem fits_of_staysNumeric
    {query : Query}
    {rows : List Row}
    (hStays : query.StaysNumeric retry records)
    (h : query.unordered retry records = .ok rows) :
    ∀ row ∈ rows,
      Row.Fits records query.selection.columns row := by
  intro row hMem
  apply List.forall₂_map_right_iff.mpr
  exact (shows_of_unordered hStays h row hMem).imp
    fun _ _ => And.right

/- So have rows of finite records. -/
theorem fits_of_unordered
    {query : Query}
    {rows : List Row}
    (hFinite : ∀ record ∈ records, record.IsFinite)
    (hCount : records.length < twoTo 64)
    (h : query.unordered retry records = .ok rows) :
    ∀ row ∈ rows,
      Row.Fits records query.selection.columns row :=
  fits_of_staysNumeric
    (query.staysNumeric_of_isFinite hFinite hCount) h

/-
  The rows of a query on finite records are ordered, by all
  places and in both directions.  No cell holds what is not a
  number, and cells of one column are of one domain.

  There are fewer records than a word of 64 bits can count; a
  mean of more could divide one infinite value by another.
-/
theorem rows_preordersOn
    {query : Query}
    {rows : List Row}
    (hFinite : ∀ record ∈ records, record.IsFinite)
    (hCount : records.length < twoTo 64)
    (hCollate : PreordersOn (IsTextOf records) collate)
    (hRows : query.unordered retry records = .ok rows) :
    (∀ direction places,
      PreordersOn (· ∈ rows)
        (Row.compareBy collate direction places)) ∧
    (∀ row ∈ rows, ∀ value ∈ row.values, ¬ value.IsNan) ∧
    (∀ row ∈ rows, row.values.map Value.domain =
      query.selection.columns.map Column.domain) := by
  have hFits := fits_of_unordered hFinite hCount hRows
  refine ⟨?_, ?_, ?_⟩
  · intro direction places
    exact (Row.compareBy_preordersOn hCollate direction
      places).mono hFits
  · exact fun row hMem => (hFits row hMem).not_isNan
  · exact fun row hMem => (hFits row hMem).map_domain_eq

/- Two texts are ordered by collation. -/
theorem compareTexts_preordersOn_pair :
    PreordersOn (fun s => s = "math" ∨ s = "cpsc")
      Collation.compareTexts := by
  apply PreordersOn.of_swap_trans
  · rintro s t (rfl | rfl) (rfl | rfl) <;> decide
  · rintro s t u (rfl | rfl) (rfl | rfl) (rfl | rfl) <;> decide

/- The mean numbers of two classes are in order. -/
theorem rows_preordersOn_means :
    let retry : Decimal.Conversion := Decimal.noRetry
    let records : List Record :=
      [⟨[("avg", .number (Binary64.ofNat 70)),
          ("dept", .text "math")]⟩,
        ⟨[("avg", .number (Binary64.ofNat 80)),
          ("dept", .text "cpsc")]⟩]
    let query : Query :=
      ⟨⟨.always,
          ⟨[.stored ⟨"ubc", .dept⟩, .applied "mean"], none⟩,
          some ⟨[⟨"ubc", .dept⟩],
            [⟨"mean", .avg, ⟨"ubc", .avg⟩⟩]⟩⟩,
        "ubc"⟩
    (∀ record ∈ records, record.IsFinite) ∧
    PreordersOn (IsTextOf records) Collation.compareTexts ∧
    ∃ rows, query.unordered retry records = .ok rows ∧
      PreordersOn (· ∈ rows)
        (Row.compareBy Collation.compareTexts .down [1, 0]) := by
  intro retry records query
  have hFinite : ∀ record ∈ records, record.IsFinite := by
    decide +kernel
  have hCollate :
      PreordersOn (IsTextOf records)
        Collation.compareTexts := by
    apply compareTexts_preordersOn_pair.mono
    rintro s ⟨record, hRecord, hText⟩
    rcases List.mem_pair.mp hRecord with rfl | rfl
    · exact .inl (by simpa [Record.values] using hText)
    · exact .inr (by simpa [Record.values] using hText)
  obtain ⟨rows, hRows⟩ :
      ∃ rows, query.unordered retry records = .ok rows := ⟨_, rfl⟩
  refine ⟨hFinite, hCollate, rows, hRows, ?_⟩
  exact (rows_preordersOn hFinite (by decide) hCollate
    hRows).1 .down [1, 0]

end Query

end Registrar
