import Registrar.Proofs.Answer.RowOrder
import Registrar.Proofs.Query.RoundTrip
import Registrar.Proofs.StableOrder

/-
  This file proves that the rows of an ordered query are the
  rows of the query without its order, in the stable order of
  the values that they have for the sorting columns.

  The order is computed on places of columns.  Here it is
  stated on the names of columns, and each of them has a place.

  Key definitions include:
    * `Query.withoutSorting`
    * `Row.valuesOf?`
    * `Row.compareColumns`

  Main statements:
    * `Row.get?_text_eq`
    * `Row.comparePlaces_eq`
    * `Query.answerBy_isStableOrder`
-/

------------------------------------------------------------
-- Values Under Names
------------------------------------------------------------

namespace Registrar

variable {retry : Decimal.Conversion}

namespace Row

/- A row with a cell for each column, under its name. -/
def IsNamed
    (columns : List Column)
    (row : Row) : Prop :=
  List.Forall₂ (fun column cell => column.text = cell.1)
    columns row.cells

/- The values that a row has under the names of columns. -/
def valuesOf?
    (columns : List Column)
    (row : Row) : Option (List Value) :=
  columns.mapM fun column => row.get? column.text

/-
  The order of two rows by the values of several columns, the
  first column first.
-/
def compareColumns
    (collate : TextOrder)
    (columns : List Column)
    (a b : Row) : Ordering :=
  match a.valuesOf? columns, b.valuesOf? columns with
  | some xs, some ys =>
      List.compareLex (Value.compareBy collate) xs ys
  | _, _ => .eq

variable {columns : List Column}

/- The value under a column's name stands in its place. -/
theorem get?_text_eq
    {row : Row}
    {column : Column}
    {place : Nat}
    (hNodup : (columns.map Column.text).Nodup)
    (hRow : row.IsNamed columns)
    (hPlace : columns.idxOf? column = some place) :
    row.get? column.text = row.values[place]? := by
  unfold IsNamed at hRow
  unfold get? values
  generalize row.cells = cells at hRow
  induction hRow generalizing place with
  | nil => cases hPlace
  | @cons first cell rest cells hHead _ ih =>
      rcases List.nodup_cons.mp hNodup with ⟨hNew, hRest⟩
      rcases cell with ⟨name, value⟩
      dsimp only at hHead
      subst hHead
      rw [List.idxOf?_cons] at hPlace
      by_cases hEq : first = column
      · subst hEq
        rw [beq_self_eq_true, if_pos rfl] at hPlace
        cases hPlace
        simp
      · rw [beq_eq_false_iff_ne.mpr hEq, if_neg Bool.false_ne_true,
          Option.map_eq_some_iff] at hPlace
        rcases hPlace with ⟨later, hLater, rfl⟩
        rcases List.idxOf?_eq_some_iff.mp hLater with
          ⟨hLess, hFound, -⟩
        have hNe : column.text ≠ first.text := by
          intro hText
          apply hNew
          rw [← hText, ← hFound]
          exact List.mem_map_of_mem (List.getElem_mem hLess)
        rw [List.lookup_cons, beq_eq_false_iff_ne.mpr hNe]
        exact ih hRest hLater

/- A row has a value under the name of each of its columns. -/
private theorem exists_value
    {row : Row}
    {column : Column}
    (hNodup : (columns.map Column.text).Nodup)
    (hRow : row.IsNamed columns)
    (hMem : column ∈ columns) :
    ∃ place value,
      columns.idxOf? column = some place ∧
      row.values[place]? = some value ∧
      row.get? column.text = some value := by
  cases hPlace : columns.idxOf? column with
  | none =>
      exact absurd hMem (List.idxOf?_eq_none_iff.mp hPlace)
  | some place =>
      rcases List.idxOf?_eq_some_iff.mp hPlace with
        ⟨hLess, -, -⟩
      have hLength : place < row.values.length := by
        unfold values
        rw [List.length_map, ← hRow.length_eq]
        exact hLess
      have hValue := List.getElem?_eq_getElem hLength
      refine ⟨place, row.values[place], rfl, hValue, ?_⟩
      rw [get?_text_eq hNodup hRow hPlace, hValue]

/- A row has values under the names of some of its columns. -/
theorem exists_valuesOf?
    {row : Row}
    {sorting : List Column}
    (hNodup : (columns.map Column.text).Nodup)
    (hRow : row.IsNamed columns)
    (hSorting : sorting ⊆ columns) :
    ∃ values, row.valuesOf? sorting = some values := by
  induction sorting with
  | nil => exact ⟨[], rfl⟩
  | cons column rest ih =>
      rcases exists_value hNodup hRow
          (hSorting List.mem_cons_self) with
        ⟨-, value, -, -, hValue⟩
      have hRest : rest ⊆ columns := fun _ hMem =>
        hSorting (List.mem_cons_of_mem column hMem)
      rcases ih hRest with ⟨values, hValues⟩
      refine ⟨value :: values, ?_⟩
      unfold valuesOf? at hValues ⊢
      rw [List.mapM_cons, hValue, hValues]
      rfl

/-
  To compare rows by the places of columns is to compare them
  by the values under the columns' names.
-/
theorem comparePlaces_eq
    (collate : TextOrder)
    {a b : Row}
    {sorting : List Column}
    (hNodup : (columns.map Column.text).Nodup)
    (ha : a.IsNamed columns)
    (hb : b.IsNamed columns)
    (hSorting : sorting ⊆ columns) :
    comparePlaces collate (sorting.filterMap columns.idxOf?) a b =
      compareColumns collate sorting a b := by
  induction sorting with
  | nil => rfl
  | cons column rest ih =>
      have hRest : rest ⊆ columns := fun _ hMem =>
        hSorting (List.mem_cons_of_mem column hMem)
      rcases exists_value hNodup ha
          (hSorting List.mem_cons_self) with
        ⟨place, x, hPlace, hPlaceA, hNameA⟩
      rcases exists_value hNodup hb
          (hSorting List.mem_cons_self) with
        ⟨other, y, hOther, hPlaceB, hNameB⟩
      obtain rfl : place = other :=
        Option.some.inj (hPlace.symm.trans hOther)
      rcases exists_valuesOf? hNodup ha hRest with ⟨xs, hXs⟩
      rcases exists_valuesOf? hNodup hb hRest with ⟨ys, hYs⟩
      have hAt : compareAt collate place a b =
          x.compareBy collate y := by
        simp [compareAt, hPlaceA, hPlaceB]
      have hFirst : ∀ {row : Row} {value : Value} {values},
          row.get? column.text = some value →
          row.valuesOf? rest = some values →
            row.valuesOf? (column :: rest) =
              some (value :: values) := by
        intro row value values hValue hValues
        unfold valuesOf? at hValues ⊢
        rw [List.mapM_cons, hValue, hValues]
        rfl
      have hPlaces :
          (column :: rest).filterMap columns.idxOf? =
            place :: rest.filterMap columns.idxOf? :=
        List.filterMap_cons_some hPlace
      rw [hPlaces, comparePlaces, hAt, ih hRest]
      simp only [compareColumns, hXs, hYs, hFirst hNameA hXs,
        hFirst hNameB hYs, List.compareLex_cons_cons]

end Row

------------------------------------------------------------
-- Ordered Queries
------------------------------------------------------------

namespace Query

variable {collate : TextOrder} {records : List Record}

/- The query without its order. -/
def withoutSorting (query : Query) : Query :=
  { query with
    selection := { query.selection with sorting := none } }

/- A sorting adds no keys to those of the columns. -/
theorem mem_keys_withoutSorting_iff
    {query : Query}
    (hSubset :
      query.selection.sortingColumns ⊆ query.selection.columns)
    {key : Key} :
    key ∈ query.withoutSorting.keys ↔ key ∈ query.keys := by
  have hSorting :
      key ∈ query.selection.sortingColumns.filterMap
          Column.key? →
        key ∈ query.selection.columns.filterMap
          Column.key? := by
    intro hMem
    rcases List.mem_filterMap.mp hMem with ⟨column, hIn, hKey⟩
    exact List.mem_filterMap.mpr ⟨column, hSubset hIn, hKey⟩
  have hSelection :
      key ∈ query.withoutSorting.selection.keys ↔
        key ∈ query.selection.keys := by
    have hNone :
        query.withoutSorting.selection.sortingColumns = [] := rfl
    unfold Selection.keys
    rw [hNone, List.filterMap_nil, List.append_nil,
      List.mem_append]
    exact ⟨.inl, fun h => h.elim id hSorting⟩
  unfold keys Request.keys
  rw [List.mem_append, List.mem_append, List.mem_append,
    List.mem_append, hSelection]
  rfl

/- A query that can be stated can be without its order. -/
theorem IsStated.withoutSorting
    {query : Query}
    (h : query.IsStated) :
    query.withoutSorting.IsStated := by
  have hWellFormed := h.selection_wellFormed
  rcases h with ⟨document, hDecoded, hRead⟩
  rcases (ofJson_eq_ok_iff hDecoded).mp hRead with
    ⟨hId, condition, selection, rfl, hStated⟩
  have hCondition := (Request.decoded_parts hDecoded).1
  refine ⟨_, decoded_toJson _,
    (ofJson_eq_ok_iff (decoded_toJson _)).mpr
      ⟨?_, _, _, toJson_eq _, ?_, ?_, ?_, ?_⟩⟩
  · have hKeys := @mem_keys_withoutSorting_iff query
      hWellFormed.sorting_subset
    rw [Request.dataSet_eq_ok_iff] at hId ⊢
    rcases List.exists_mem_of_ne_nil _ hId.1 with ⟨key, hMem⟩
    refine ⟨List.ne_nil_of_mem (hKeys.mpr hMem), ?_⟩
    intro other hOther
    exact hId.2 other (hKeys.mp hOther)
  · exact Condition.ofJson_toJson hCondition
      hStated.condition_read
  · apply Selection.ofJson_toJson
    refine ⟨hWellFormed.columns_ne_nil,
      hWellFormed.columns_wellFormed, hWellFormed.texts_nodup,
      ?_, List.nil_subset _⟩
    intro sorting hNone
    cases hNone
  · exact hStated.grouping_wellFormed
  · exact hStated.columns_shown

/- The rows of a query are named by its columns. -/
theorem isNamed_of_unordered
    {query : Query}
    {rows : List Row}
    (h : query.unordered retry records = .ok rows) :
    ∀ row ∈ rows, row.IsNamed query.selection.columns := by
  intro row hMem
  rcases unordered_eq_ok_iff.mp h with ⟨sources, -, rfl⟩
  rcases List.mem_filterMap.mp hMem with ⟨source, -, hRow⟩
  exact (Source.row?_eq_some_iff.mp hRow).imp
    fun _ _ => And.left

/- Without an order the rows stay as they are. -/
theorem answerBy_withoutSorting
    (collate : TextOrder)
    (query : Query)
    (records : List Record) :
    query.withoutSorting.answerBy collate retry records =
      query.unordered retry records := by
  have hUnordered : query.withoutSorting.unordered retry records =
      query.unordered retry records := rfl
  unfold answerBy
  rw [hUnordered]
  cases query.unordered retry records <;> rfl

/-
  An ordered query has the rows of the query without its order,
  in the stable order of the values under all sorting columns,
  in the wanted direction.  To order downwards is to turn the
  rows round, order them upwards, and turn them round again.

  There are fewer records than a word of 64 bits can count.
-/
theorem answerBy_isStableOrder
    {query : Query}
    {sorting : Sorting}
    {rows : List Row}
    (hStated : query.IsStated)
    (hSorting : query.selection.sorting = some sorting)
    (hFinite : ∀ record ∈ records, record.IsFinite)
    (hCount : records.length < twoTo 64)
    (hCollate : PreordersOn (IsTextOf records) collate)
    (hRows :
      query.withoutSorting.answerBy collate retry records =
        .ok rows) :
    query.withoutSorting.IsStated ∧
    ∃ ordered, query.answerBy collate retry records = .ok ordered ∧
      (∀ row ∈ rows,
        ∃ values, row.valuesOf? sorting.columns = some values) ∧
      IsStableOrder
        (fun a b => sorting.direction.orient
          (Row.compareColumns collate sorting.columns a b))
        rows ordered ∧
      (sorting.direction = .down →
        ∃ upward,
          IsStableOrder
            (Row.compareColumns collate sorting.columns)
            rows.reverse upward ∧
          ordered = upward.reverse) := by
  refine ⟨hStated.withoutSorting, ?_⟩
  rw [answerBy_withoutSorting] at hRows
  rcases hStated.selection_wellFormed with
    ⟨-, -, hNodup, -, hSubset⟩
  have hColumns : query.selection.sortingColumns =
      sorting.columns := by
    unfold Selection.sortingColumns
    rw [hSorting]
  rw [hColumns] at hSubset
  have hNamed := isNamed_of_unordered hRows
  have hFits := fits_of_unordered hFinite hCount hRows
  have hCompare : ∀ a ∈ rows, ∀ b ∈ rows,
      Row.comparePlaces collate query.selection.sortingPlaces
          a b =
        Row.compareColumns collate sorting.columns a b := by
    intro a ha b hb
    unfold Selection.sortingPlaces
    rw [hColumns]
    exact Row.comparePlaces_eq collate hNodup (hNamed a ha)
      (hNamed b hb) hSubset
  have hOrders : PreordersOn (· ∈ rows)
      (Row.comparePlaces collate
        query.selection.sortingPlaces) :=
    (Row.comparePlaces_preordersOn hCollate _).mono hFits
  have hDirected : PreordersOn (· ∈ rows)
      (Row.compareBy collate sorting.direction
        query.selection.sortingPlaces) :=
    (Row.compareBy_preordersOn hCollate _ _).mono hFits
  refine ⟨Row.orderBy collate sorting.direction
    query.selection.sortingPlaces rows, ?_, ?_, ?_, ?_⟩
  · unfold answerBy arrangeBy
    rw [hRows, hSorting]
  · exact fun row hMem =>
      Row.exists_valuesOf? hNodup (hNamed row hMem) hSubset
  · apply (arrange_isStableOrder hDirected).congr
    intro a ha b hb
    unfold Row.compareBy
    rw [hCompare a ha b hb]
  · intro hDown
    have hTurned : PreordersOn (· ∈ rows.reverse)
        (Row.comparePlaces collate
          query.selection.sortingPlaces) :=
      hOrders.mono fun _ hMem => List.mem_reverse.mp hMem
    refine ⟨_, (arrange_isStableOrder hTurned).congr ?_, ?_⟩
    · intro a ha b hb
      exact hCompare a (List.mem_reverse.mp ha) b
        (List.mem_reverse.mp hb)
    · rw [hDown]
      exact arrange_flip hOrders

/- Of two records of one department, the first stays first. -/
theorem answerBy_isStableOrder_departments :
    let retry : Decimal.Conversion := Decimal.noRetry
    let collate : TextOrder := Collation.compareTexts
    let dept : Column := .stored ⟨"ubc", .dept⟩
    let year : Column := .stored ⟨"ubc", .year⟩
    let query : Query :=
      ⟨⟨.always,
          ⟨[year, dept], some (.several .down [dept])⟩, none⟩,
        "ubc"⟩
    let record (name : String) (n : Nat) : Record :=
      ⟨[("dept", .text name),
        ("year", .number (Binary64.ofNat n))]⟩
    let records : List Record :=
      [record "cpsc" 1, record "math" 2, record "math" 3]
    query.IsStated ∧
    (∀ record ∈ records, record.IsFinite) ∧
    PreordersOn (IsTextOf records) collate ∧
    ∃ rows ordered,
      query.withoutSorting.answerBy collate retry records =
        .ok rows ∧
      query.answerBy collate retry records = .ok ordered ∧
      IsStableOrder
        (fun a b => (Row.compareColumns
          collate [dept] a b).swap)
        rows ordered := by
  intro retry collate dept year query record records
  have hStated : query.IsStated := by
    refine ⟨query.toJson, query.decoded_toJson, ?_⟩
    have hRequest :
        Request.ofJson query.toJson = .ok query.toRequest := by
      decide +revert
    have hId : query.toRequest.dataSet = .ok "ubc" := by
      apply Request.dataSet_eq_ok_iff.mpr
      simp [query, dept, year, Request.keys, Condition.keys,
        Selection.keys, Selection.sortingColumns,
        Sorting.columns, Column.key?]
    rw [ofJson, hRequest]
    simp only [hId]
    rfl
  have hFinite : ∀ record ∈ records, record.IsFinite := by
    decide +kernel
  have hCollate :
      PreordersOn (IsTextOf records)
        collate := by
    apply compareTexts_preordersOn_pair.mono
    rintro s ⟨found, hFound, hText⟩
    simp only [records, List.mem_cons, List.not_mem_nil,
      or_false] at hFound
    rcases hFound with rfl | rfl | rfl <;>
      simp [record, Record.values] at hText <;> simp [hText]
  obtain ⟨rows, hRows⟩ :
      ∃ rows, query.withoutSorting.answerBy collate retry
        records = .ok rows :=
    ⟨_, rfl⟩
  rcases answerBy_isStableOrder hStated rfl hFinite (by decide)
      hCollate hRows with
    ⟨-, ordered, hOrdered, -, hStable, -⟩
  exact ⟨hStated, hFinite, hCollate, rows, ordered, hRows,
    hOrdered, hStable⟩

end Query

end Registrar
