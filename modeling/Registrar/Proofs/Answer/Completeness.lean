import Registrar.Proofs.Answer.Ordered
import Registrar.Proofs.Query.WellFormed

/-
  This file proves that the rows of an answer are complete: each
  has a value for each column, under the column's name, in the
  column's place and of the column's domain.

  A record or a class becomes a row if it fills the columns that
  are keys.  Columns of computed values leave out nothing, since
  each class has the values of all rules.

  Key definitions include:
    * `Row.IsComplete`
    * `Record.fills`

  Main statements:
    * `Row.isComplete_of_forall₂`
    * `Source.isSome_row?_record_iff`
    * `Source.isSome_row?_summary_iff`
    * `Query.answerBy_isComplete`
-/

------------------------------------------------------------
-- Complete Rows
------------------------------------------------------------

namespace Registrar

variable {retry : Decimal.Conversion}

namespace Row

/-
  A row with the names of some columns, no name twice, and a
  value of the column's domain under each name and in its place.
  Its document has a member for each of them, in this order.
-/
structure IsComplete
    (columns : List Column)
    (row : Row) : Prop where
  names_eq : row.names = columns.map Column.text
  names_nodup : row.names.Nodup
  length_eq : row.values.length = columns.length
  value_at : ∀ (place : Nat) (column : Column),
    columns[place]? = some column →
      ∃ value, row.values[place]? = some value ∧
        row.get? column.text = some value ∧
        value.domain = column.domain
  toJson_eq : row.toJson =
    .object (row.names.zip (row.values.map Value.toJson))

/- A row is complete if it has a fitting cell for each column. -/
theorem isComplete_of_forall₂
    {columns : List Column}
    {row : Row}
    (hColumns : columns.Nodup)
    (hTexts : (columns.map Column.text).Nodup)
    (h : List.Forall₂
      (fun column cell => column.text = cell.1 ∧
        cell.2.domain = column.domain)
      columns row.cells) :
    row.IsComplete columns := by
  have hNamed : row.IsNamed columns :=
    h.imp fun _ _ => And.left
  have hNames : row.names = columns.map Column.text :=
    (map_eq_map_of_forall₂ hNamed).symm
  refine ⟨hNames, hNames ▸ hTexts, ?_, ?_, ?_⟩
  · rw [values, List.length_map, h.length_eq]
  · intro place column hColumn
    rcases List.getElem?_eq_some_iff.mp hColumn with
      ⟨hLess, hAt⟩
    have hCell : place < row.cells.length := h.length_eq ▸ hLess
    have hFitting := (h.get hLess hCell).2
    have hValue : row.values[place]? =
        some row.cells[place].2 := by
      simp [values, hCell]
    refine ⟨row.cells[place].2, hValue, ?_, ?_⟩
    · rw [get?_text_eq hTexts hNamed
        (idxOf?_eq_of_nodup hColumns hColumn), hValue]
    · simpa [hAt] using hFitting
  · unfold toJson names values
    rw [List.map_map, List.zip_map']
    rfl

end Row

------------------------------------------------------------
-- Columns That Are Filled
------------------------------------------------------------

/-
  Whether a record has a value of the field's domain for each
  column that is a key.
-/
def Record.fills
    (columns : List Column)
    (record : Record) : Bool :=
  (columns.filterMap Column.key?).all fun key =>
    (record.get? key.field).any fun value =>
      value.domain = key.field.domain

/- Values with one identity are of one domain. -/
private theorem Value.map_domain_eq
    {a b : Option Value}
    (h : a.map Value.identity = b.map Value.identity) :
    a.map Value.domain = b.map Value.domain := by
  match a, b with
  | none, none => rfl
  | none, some y => cases h
  | some x, none => cases h
  | some (.number x), some (.number y) => rfl
  | some (.text s), some (.text t) => rfl
  | some (.number x), some (.text t) =>
      simp only [Option.map_some, identity] at h
      split at h <;> cases h
  | some (.text s), some (.number y) =>
      simp only [Option.map_some, identity] at h
      split at h <;> cases h

/- Records with one identity fill the same columns. -/
theorem Record.fills_eq_of_identityIn_eq
    {keys : List Key}
    {columns : List Column}
    {r s : Record}
    (hKeys : ∀ key ∈ columns.filterMap Column.key?, key ∈ keys)
    (h : identityIn keys r = identityIn keys s) :
    r.fills columns = s.fills columns := by
  have hDomains : ∀ key ∈ keys,
      (r.get? key.field).map Value.domain =
        (s.get? key.field).map Value.domain := fun key hMem =>
    Value.map_domain_eq (List.map_inj_left.mp h key hMem)
  have hAny : ∀ key ∈ keys,
      (r.get? key.field).any
          (fun value => value.domain = key.field.domain) =
        (s.get? key.field).any
          fun value => value.domain = key.field.domain := by
    intro key hMem
    have hEq := congrArg
      (Option.any fun domain => domain = key.field.domain)
      (hDomains key hMem)
    simpa only [Option.any_map, Function.comp_def] using hEq
  unfold fills
  rw [Bool.eq_iff_iff, List.all_eq_true, List.all_eq_true]
  apply forall₂_congr
  intro key hMem
  rw [hAny key (hKeys key hMem)]

namespace Source

variable {columns : List Column}

/- A source becomes a row if it has a value for each column. -/
theorem isSome_row?_iff
    {source : Source} :
    (source.row? columns).isSome ↔
      ∀ column ∈ columns, (source.value? column).isSome := by
  unfold row?
  rw [Option.isSome_map, isSome_mapM_iff]
  simp only [cell?, Option.isSome_map]

/- Where all columns are keys, a record has to fill them. -/
theorem isSome_row?_record_iff
    {r : Record}
    (hStored : ∀ column ∈ columns,
      ∃ key, column = .stored key) :
    ((Source.record r).row? columns).isSome ↔
      r.fills columns = true := by
  rw [isSome_row?_iff]
  unfold Record.fills
  rw [List.all_eq_true]
  constructor
  · intro h key hMem
    rcases List.mem_filterMap.mp hMem with
      ⟨column, hColumn, hKey⟩
    rcases hStored column hColumn with ⟨other, rfl⟩
    cases hKey
    simpa [value?, get?] using h _ hColumn
  · intro h column hColumn
    rcases hStored column hColumn with ⟨key, rfl⟩
    have hKey := h key
      (List.mem_filterMap.mpr ⟨_, hColumn, rfl⟩)
    simpa [value?, get?] using hKey

/-
  A class has the values of all rules, so that its first member
  has to fill the columns, and nothing else.
-/
theorem isSome_row?_summary_iff
    {grouping : Grouping}
    {members : List Record}
    {first : Record}
    {summary : Summary}
    (hProvides : ∀ column ∈ columns,
      grouping.provides column = true)
    (hNames : (grouping.rules.map AppliedRule.name).Nodup)
    (hDescribes : grouping.Describes retry members summary)
    (hFirst : members.head? = some first) :
    ((Source.summary summary).row? columns).isSome ↔
      first.fills columns = true := by
  have hStored : ∀ key, .stored key ∈ columns →
      (Source.summary summary).get? key.field =
        first.get? key.field := by
    intro key hColumn
    have hKey := hProvides _ hColumn
    exact hDescribes.get?_eq first hFirst key
      (by simpa [Grouping.provides] using hKey)
  have hApplied : ∀ name, .applied name ∈ columns →
      ((Source.summary summary).value?
        (.applied name)).isSome := by
    intro name hColumn
    have hRule := hProvides _ hColumn
    rw [Grouping.provides, List.any_eq_true] at hRule
    rcases hRule with ⟨rule, hMem, hName⟩
    rcases hDescribes.applied?_name_eq hNames hMem with
      ⟨x, -, hValue⟩
    rw [eq_of_beq hName] at hValue
    simp [value?, applied?, hValue]
  rw [isSome_row?_iff]
  unfold Record.fills
  rw [List.all_eq_true]
  constructor
  · intro h key hMem
    rcases List.mem_filterMap.mp hMem with
      ⟨column, hColumn, hKey⟩
    cases column with
    | applied name => cases hKey
    | stored other =>
        cases hKey
        simpa [value?, hStored key hColumn] using h _ hColumn
  · intro h column hColumn
    cases column with
    | applied name => exact hApplied name hColumn
    | stored key =>
        have hKey := h key
          (List.mem_filterMap.mpr ⟨_, hColumn, rfl⟩)
        simpa [value?, hStored key hColumn] using hKey

end Source

------------------------------------------------------------
-- Complete Answers
------------------------------------------------------------

namespace Query

variable {collate : TextOrder} {records : List Record}

/- The rows of a query that has been read are complete. -/
theorem isComplete_of_unordered
    {query : Query}
    {rows : List Row}
    (hQuery : query.IsWellFormed)
    (h : query.unordered retry records = .ok rows) :
    ∀ row ∈ rows, row.IsComplete query.selection.columns := by
  intro row hMem
  rcases unordered_eq_ok_iff.mp h with ⟨sources, -, rfl⟩
  rcases List.mem_filterMap.mp hMem with ⟨source, -, hRow⟩
  apply Row.isComplete_of_forall₂ hQuery.columns_nodup
    hQuery.selection_wellFormed.texts_nodup
  exact (Source.row?_eq_some_iff.mp hRow).imp
    fun _ _ => And.imp_right Source.domain_of_value?

/- Without a grouping the rows are the records that fill. -/
private theorem length_of_records
    {query : Query}
    {rows : List Row}
    (hQuery : query.IsWellFormed)
    (hGrouping : query.grouping = none)
    (h : query.unordered retry records = .ok rows) :
    rows.length = (query.matched records).countP fun r =>
      r.fills query.selection.columns := by
  rcases unordered_eq_ok_iff.mp h with ⟨sources, hSources, rfl⟩
  unfold Query.sources at hSources
  rw [hGrouping] at hSources
  cases hSources
  rw [List.filterMap_map, List.length_filterMap_eq_countP]
  apply List.countP_congr
  intro r _
  exact Source.isSome_row?_record_iff
    (hQuery.columns_stored hGrouping)

/- All members of a class fill the columns, or none does. -/
private theorem fills_eq_of_mem_class
    {query : Query}
    {grouping : Grouping}
    {members : List Record}
    {r s : Record}
    (hQuery : query.IsWellFormed)
    (hGrouping : query.grouping = some grouping)
    (hMembers :
      members ∈ classes grouping.keys (query.matched records))
    (hr : r ∈ members)
    (hs : s ∈ members) :
    r.fills query.selection.columns =
      s.fills query.selection.columns := by
  have hKeys :
      ∀ key ∈ query.selection.columns.filterMap Column.key?,
        key ∈ grouping.keys := by
    intro key hKey
    rcases List.mem_filterMap.mp hKey with ⟨column, hMem, hEq⟩
    cases column with
    | applied name => cases hEq
    | stored other =>
        cases hEq
        exact hQuery.mem_keys_of_stored hGrouping hMem
  apply Record.fills_eq_of_identityIn_eq hKeys
  exact identityIn_eq_of_mem_classes hMembers hr hs

/- With a grouping the rows are the classes that fill. -/
private theorem length_of_classes
    {query : Query}
    {grouping : Grouping}
    {rows : List Row}
    (hQuery : query.IsWellFormed)
    (hGrouping : query.grouping = some grouping)
    (h : query.unordered retry records = .ok rows) :
    rows.length =
      (classes grouping.keys (query.matched records)).countP
        fun members => members.all fun r =>
          r.fills query.selection.columns := by
  rcases unordered_eq_ok_iff.mp h with ⟨sources, hSources, rfl⟩
  rcases (sources_eq_ok_iff hGrouping).mp hSources with
    ⟨summaries, hSummaries, rfl⟩
  have hEach : List.Forall₂
      (fun (members : List Record) summary =>
        (members.all fun r =>
            r.fills query.selection.columns) =
          ((Source.summary summary).row?
            query.selection.columns).isSome)
      (classes grouping.keys (query.matched records))
      summaries := by
    have hMembers := (List.forall₂_and_left _ _).mpr
      ⟨fun _ hMem => hMem, hSummaries⟩
    apply hMembers.imp
    rintro members summary ⟨hMem, hSummarize⟩
    obtain ⟨first, hFirst⟩ : ∃ first,
        members.head? = some first :=
      Option.isSome_iff_exists.mp
        (List.isSome_head?.mpr (ne_nil_of_mem_classes hMem))
    have hFills := Source.isSome_row?_summary_iff
      (hQuery.provides_columns grouping hGrouping)
      (hQuery.grouping_wellFormed grouping hGrouping).names_nodup
      (Grouping.describes_of_summarize hSummarize) hFirst
    have hHead : first ∈ members := List.mem_of_head? hFirst
    rw [Bool.eq_iff_iff, hFills, List.all_eq_true]
    constructor
    · exact fun hAll => hAll first hHead
    · intro hFirstFills r hr
      rwa [fills_eq_of_mem_class hQuery hGrouping hMem hr hHead]
  have hCount := congrArg (List.countP id)
    (map_eq_map_of_forall₂ hEach)
  rw [List.countP_map, List.countP_map] at hCount
  rw [List.filterMap_map, List.length_filterMap_eq_countP]
  exact hCount.symm

/-
  Each row of an answer has a value for each column, under its
  name, in its place and of its domain.  There are as many rows
  as there are records that meet the condition, or classes of
  them, with a value of the field's domain for each column that
  is a key; all members of a class agree on this.
-/
theorem answerBy_isComplete
    {query : Query}
    {rows : List Row}
    (hStated : query.IsStated)
    (h : query.answerBy collate retry records = .ok rows) :
    let met := records.filter fun r => query.condition.holds r
    (∀ row ∈ rows, row.IsComplete query.selection.columns) ∧
    (query.grouping = none →
      rows.length = met.countP fun r =>
        r.fills query.selection.columns) ∧
    ∀ grouping ∈ query.grouping,
      let groups := classes grouping.keys met
      (∀ members ∈ groups, ∀ r ∈ members, ∀ s ∈ members,
        r.fills query.selection.columns =
          s.fills query.selection.columns) ∧
      rows.length = groups.countP fun members =>
        members.all fun r =>
          r.fills query.selection.columns := by
  intro met
  have hQuery := hStated.isWellFormed
  rcases answerBy_eq_ok_iff.mp h with ⟨found, hFound, rfl⟩
  have hPerm := arrangeBy_perm collate query found
  refine ⟨?_, ?_, ?_⟩
  · intro row hMem
    exact isComplete_of_unordered hQuery hFound row
      (hPerm.mem_iff.mp hMem)
  · intro hGrouping
    rw [hPerm.length_eq]
    exact length_of_records hQuery hGrouping hFound
  · intro grouping hGrouping groups
    refine ⟨?_, ?_⟩
    · intro members hMembers r hr s hs
      exact fills_eq_of_mem_class hQuery hGrouping hMembers hr hs
    · rw [hPerm.length_eq]
      exact length_of_classes hQuery hGrouping hFound

/-
  Of three classes two become no row: one has no department, and
  one has a number there.
-/
theorem answerBy_isComplete_departments :
    let retry : Decimal.Conversion := Decimal.noRetry
    let collate : TextOrder := Collation.compareTexts
    let dept : Key := ⟨"ubc", .dept⟩
    let columns : List Column := [.applied "n", .stored dept]
    let query : Query :=
      ⟨⟨.always, ⟨columns, none⟩,
          some ⟨[dept], [⟨"n", .count, dept⟩]⟩⟩,
        "ubc"⟩
    let records : List Record :=
      [⟨[("dept", .text "math")]⟩, ⟨[]⟩,
        ⟨[("dept", .number Binary64.zero)]⟩]
    query.IsStated ∧ query.condition = .always ∧
    (classes [dept] records).length = 3 ∧
    ∃ rows, query.answerBy collate retry records = .ok rows ∧
      (∀ row ∈ rows, row.IsComplete columns) ∧
      rows.length = 1 := by
  intro retry collate dept columns query records
  have hStated : query.IsStated :=
    isStated_of_toJson (by decide +revert) (by decide +kernel)
  obtain ⟨rows, hRows⟩ :
      ∃ rows,
        query.answerBy collate retry records = .ok rows :=
    ⟨_, rfl⟩
  have h := answerBy_isComplete hStated hRows
  refine ⟨hStated, rfl, by decide +kernel, rows, hRows, h.1, ?_⟩
  rw [(h.2.2 _ rfl).2]
  decide +kernel

end Query

end Registrar
