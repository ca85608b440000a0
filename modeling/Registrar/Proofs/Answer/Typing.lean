import Registrar.Proofs.Answer.Partition
import Registrar.Proofs.Answer.Rules

/-
  This file proves what the cells of result rows hold: a value
  of the column's domain that is a number indeed, or a text of
  the records.

  A property of the records is followed through the stages of
  an answer: to what the rows are made from, to the values that
  columns take from there, and to the rows.

  Key definitions include:
    * `Source.IsFrom`
    * `Query.StaysNumeric`
    * `Column.domain`
    * `Column.Shows`

  Main statements:
    * `Source.isFrom_of_summarize`
    * `Source.shows_of_value?`
    * `Query.shows_of_unordered`
-/

------------------------------------------------------------
-- Sources
------------------------------------------------------------

namespace Registrar

variable {retry : Decimal.Conversion}

/-
  A source that has values of the records only, and numbers
  computed for them.
-/
structure Source.IsFrom
    (records : List Record)
    (source : Source) : Prop where
  get?_mem : ∀ field value, source.get? field = some value →
    ∃ record ∈ records, value ∈ record.values
  not_isNan_applied? : ∀ name value,
    source.applied? name = some value →
      ∃ x, ¬ x.IsNan ∧ value = .number x

namespace Source

/- A record is a source of its own. -/
theorem isFrom_record
    {records : List Record}
    {r : Record}
    (hMem : r ∈ records) :
    (Source.record r).IsFrom records where
  get?_mem := fun _ _ h =>
    ⟨r, hMem, Record.mem_values_of_get? h⟩
  not_isNan_applied? := by
    intro name value h
    cases h

private theorem mem_values_of_get?_summary
    {grouping : Grouping}
    {members : List Record}
    {summary : Summary}
    {field : Field}
    {value : Value}
    (hSummary : grouping.summarize retry members = .ok summary)
    (h : summary.get? field = some value) :
    ∃ record ∈ members, value ∈ record.values := by
  rcases bind_eq_ok_iff.mp hSummary with ⟨applied, -, hEq⟩
  cases hEq
  have hShared := mem_of_lookup_eq_some
    (Option.join_eq_some_iff.mp h)
  rcases List.mem_map.mp hShared with ⟨key, -, hKey⟩
  rcases Option.bind_eq_some_iff.mp (Prod.mk.inj hKey).2 with
    ⟨first, hFirst, hGet⟩
  exact ⟨first, List.mem_of_head? hFirst,
    Record.mem_values_of_get? hGet⟩

/-
  The summary of a class is from the records, if no rule yields
  what is not a number.
-/
theorem isFrom_of_summarize
    {grouping : Grouping}
    {records members : List Record}
    {summary : Summary}
    (hRules : ∀ rule ∈ grouping.rules, ∀ x,
      rule.evaluate retry members = .ok x → ¬ x.IsNan)
    (hSublist : members.Sublist records)
    (h : grouping.summarize retry members = .ok summary) :
    (Source.summary summary).IsFrom records where
  get?_mem := by
    intro field value hGet
    rcases mem_values_of_get?_summary h hGet with
      ⟨record, hMem, hValue⟩
    exact ⟨record, hSublist.subset hMem, hValue⟩
  not_isNan_applied? := by
    intro name value hApplied
    rcases Option.map_eq_some_iff.mp hApplied with ⟨x, hX, rfl⟩
    rw [(Grouping.describes_of_summarize h).applied?_eq] at hX
    rcases Option.bind_eq_some_iff.mp hX with
      ⟨rule, hFound, hRule⟩
    have hMem := (Grouping.mem_of_rule? hFound).1
    exact ⟨x, hRules rule hMem x (toOption_eq_some_iff.mp hRule),
      rfl⟩

end Source

namespace Query

/-
  Records of numbers indeed, from which no rule of a query can
  compute what is not a number.
-/
structure StaysNumeric
    (retry : Decimal.Conversion)
    (query : Query)
    (records : List Record) : Prop where
  withoutNan : ∀ record ∈ records, record.WithoutNan
  not_isNan_evaluate : ∀ grouping ∈ query.grouping,
    ∀ rule ∈ grouping.rules, ∀ members : List Record,
      members.Sublist records → members ≠ [] →
        ∀ x, rule.evaluate retry members = .ok x → ¬ x.IsNan

/- Rules yield numbers for finite records. -/
theorem staysNumeric_of_isFinite
    {records : List Record}
    (query : Query)
    (hFinite : ∀ record ∈ records, record.IsFinite)
    (hCount : records.length < twoTo 64) :
    query.StaysNumeric retry records where
  withoutNan := fun record hMem =>
    (hFinite record hMem).withoutNan
  not_isNan_evaluate := by
    intro grouping _ rule _ members hSublist hNe x h
    apply AppliedRule.not_isNan_evaluate ?_ ?_ ?_ h
    · exact fun record hMem =>
        hFinite record (hSublist.subset hMem)
    · exact List.length_pos_of_ne_nil hNe
    · exact Nat.lt_of_le_of_lt hSublist.length_le hCount

/- All sources of a query are from the records. -/
theorem isFrom_of_sources
    {query : Query}
    {records : List Record}
    {sources : List Source}
    (hStays : query.StaysNumeric retry records)
    (h : query.sources retry records = .ok sources) :
    ∀ source ∈ sources, source.IsFrom records := by
  intro source hMem
  have hMatched : (query.matched records).Sublist records :=
    List.filter_sublist
  cases hGrouping : query.grouping with
  | none =>
      unfold Query.sources at h
      rw [hGrouping] at h
      cases h
      rcases List.mem_map.mp hMem with ⟨record, hRecord, rfl⟩
      exact Source.isFrom_record (hMatched.subset hRecord)
  | some grouping =>
      rcases (sources_eq_ok_iff hGrouping).mp h with
        ⟨summaries, hSummaries, rfl⟩
      rcases List.mem_map.mp hMem with ⟨summary, hSummary, rfl⟩
      rcases exists_left_of_forall₂ hSummaries hSummary with
        ⟨members, hMembers, hSummarize⟩
      have hSublist : members.Sublist records :=
        (sublist_of_mem_classes hMembers).trans hMatched
      apply Source.isFrom_of_summarize ?_ hSublist hSummarize
      intro rule hRule
      exact hStays.not_isNan_evaluate grouping hGrouping rule hRule
        members hSublist (ne_nil_of_mem_classes hMembers)

end Query

------------------------------------------------------------
-- Columns
------------------------------------------------------------

/- The domain of what a column shows. -/
def Column.domain : Column → Domain
| .stored key => key.field.domain
| .applied _ => .numeric

/- A value of records that a column can show. -/
structure Column.Shows
    (records : List Record)
    (column : Column)
    (value : Value) : Prop where
  domain_eq : value.domain = column.domain
  not_isNan : ¬ value.IsNan
  isTextOf : ∀ s, value = .text s → IsTextOf records s

/- What a source has for a column is of the column's domain. -/
theorem Source.domain_of_value?
    {source : Source}
    {column : Column}
    {value : Value}
    (h : source.value? column = some value) :
    value.domain = column.domain := by
  cases column with
  | stored key =>
      exact of_decide_eq_true (Option.filter_eq_some_iff.mp h).2
  | applied name =>
      cases source with
      | record r => cases h
      | summary s =>
          rcases Option.map_eq_some_iff.mp h with ⟨x, -, rfl⟩
          rfl

/- A column shows what a source has for it. -/
theorem Source.shows_of_value?
    {records : List Record}
    {source : Source}
    {column : Column}
    {value : Value}
    (hNumbers : ∀ record ∈ records, record.WithoutNan)
    (hFrom : source.IsFrom records)
    (h : source.value? column = some value) :
    column.Shows records value := by
  have hDomain := domain_of_value? h
  cases column with
  | stored key =>
      rcases Option.filter_eq_some_iff.mp h with ⟨hGet, -⟩
      rcases hFrom.get?_mem key.field value hGet with
        ⟨record, hMem, hValue⟩
      refine ⟨hDomain, ?_, ?_⟩
      · exact hNumbers record hMem value hValue
      · rintro s rfl
        exact ⟨record, hMem, hValue⟩
  | applied name =>
      rcases hFrom.not_isNan_applied? name value h with
        ⟨x, hNe, rfl⟩
      refine ⟨hDomain, ?_, ?_⟩
      · exact hNe
      · intro s hEq
        cases hEq

------------------------------------------------------------
-- Rows
------------------------------------------------------------

/- The rows of a query are made from its sources. -/
theorem Query.unordered_eq_ok_iff
    {query : Query}
    {records : List Record}
    {rows : List Row} :
    query.unordered retry records = .ok rows ↔
      ∃ sources, query.sources retry records = .ok sources ∧
        rows = sources.filterMap fun source =>
          source.row? query.selection.columns := by
  unfold Query.unordered
  cases query.sources retry records with
  | error failure => simp
  | ok sources => simp [eq_comm]

/- Rows are put in order, and stay the same. -/
theorem Query.arrangeBy_perm
    (collate : TextOrder)
    (query : Query)
    (rows : List Row) :
    (query.arrangeBy collate rows).Perm rows := by
  unfold Query.arrangeBy
  split
  · exact List.Perm.refl rows
  · exact arrange_perm _ rows

/- The rows that answer a query are its rows, put in order. -/
theorem Query.answerBy_eq_ok_iff
    {query : Query}
    {records : List Record}
    {rows : List Row}
    {collate : TextOrder} :
    query.answerBy collate retry records = .ok rows ↔
      ∃ found, query.unordered retry records = .ok found ∧
        rows = query.arrangeBy collate found := by
  unfold Query.answerBy
  cases query.unordered retry records with
  | error failure => simp
  | ok found => simp [eq_comm]

/- A query has an answer if and only if it has sources. -/
theorem Query.exists_answerBy_iff
    {query : Query}
    {records : List Record}
    {collate : TextOrder} :
    (∃ rows, query.answerBy collate retry records = .ok rows) ↔
      ∃ sources, query.sources retry records = .ok sources := by
  simp only [answerBy_eq_ok_iff, unordered_eq_ok_iff]
  constructor
  · rintro ⟨_, _, ⟨sources, h, -⟩, -⟩
    exact ⟨sources, h⟩
  · rintro ⟨sources, h⟩
    exact ⟨_, _, ⟨sources, h, rfl⟩, rfl⟩

/- A row has a cell for each column, named and filled so. -/
theorem Source.row?_eq_some_iff
    {source : Source}
    {columns : List Column}
    {row : Row} :
    source.row? columns = some row ↔
      List.Forall₂
        (fun column cell => column.text = cell.1 ∧
          source.value? column = some cell.2)
        columns row.cells := by
  have hCell :
      ∀ (column : Column) (cell : String × Value),
        source.cell? column = some cell ↔
          column.text = cell.1 ∧
            source.value? column = some cell.2 := by
    rintro column ⟨name, value⟩
    unfold cell?
    rw [Option.map_eq_some_iff]
    constructor
    · rintro ⟨found, hFound, hEq⟩
      cases hEq
      exact ⟨rfl, hFound⟩
    · rintro ⟨hText, hFound⟩
      exact ⟨value, hFound, by rw [hText]⟩
  simp only [← hCell, ← mapM_eq_some_iff]
  unfold row?
  rw [Option.map_eq_some_iff]
  constructor
  · rintro ⟨cells, hCells, rfl⟩
    exact hCells
  · intro hCells
    exact ⟨row.cells, hCells, rfl⟩

/- Each cell of a row holds what its column can show. -/
theorem Query.shows_of_unordered
    {query : Query}
    {records : List Record}
    {rows : List Row}
    (hStays : query.StaysNumeric retry records)
    (h : query.unordered retry records = .ok rows) :
    ∀ row ∈ rows,
      List.Forall₂
        (fun column cell => column.text = cell.1 ∧
          column.Shows records cell.2)
        query.selection.columns row.cells := by
  intro row hMem
  rcases unordered_eq_ok_iff.mp h with ⟨sources, hSources, rfl⟩
  rcases List.mem_filterMap.mp hMem with ⟨source, hSource, hRow⟩
  have hFrom := isFrom_of_sources hStays hSources source hSource
  apply (Source.row?_eq_some_iff.mp hRow).imp
  intro column cell hCell
  exact ⟨hCell.1,
    Source.shows_of_value? hStays.withoutNan hFrom hCell.2⟩

end Registrar
