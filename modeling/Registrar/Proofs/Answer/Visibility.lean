import Registrar.Collation.Order
import Registrar.Proofs.Answer.Conditions
import Registrar.Proofs.Answer.Typing
import Registrar.Service.Engine

/-
  This file proves that the answer to a query depends on nothing
  but the fields of the query's keys.

  Two runs of a query are compared, stage by stage.  The records
  of one run may differ from those of the other in every field
  that is not looked at.  They meet the same conditions, fall
  into the same classes, have the same numbers computed for
  them, and become the same rows.

  Key definitions include:
    * `Record.SameOn`

  Main statements:
    * `Condition.holds_eq`
    * `forall₂_sameOn_classes`
    * `AppliedRule.evaluate_eq`
    * `Query.answerBy_eq`
    * `Query.answer_sees_only_keys`
-/

------------------------------------------------------------
-- Records That Look The Same
------------------------------------------------------------

namespace Registrar

variable {retry : Decimal.Conversion}

/- Two records have the same in each of some fields. -/
def Record.SameOn
    (fields : List Field)
    (r s : Record) : Prop :=
  ∀ field ∈ fields, r.get? field = s.get? field

instance
    (fields : List Field)
    (r s : Record) :
    Decidable (Record.SameOn fields r s) := by
  unfold Record.SameOn
  infer_instance

variable {fields : List Field} {r s : Record}

------------------------------------------------------------
-- Conditions
------------------------------------------------------------

/- Records that look the same meet the same conditions. -/
theorem Condition.holds_eq
    (h : r.SameOn fields s)
    (c : Condition)
    (hKeys : ∀ key ∈ c.keys, key.field ∈ fields) :
    holds r c = holds s c := by
  apply holds_eq_of_alikeIn
  intro key hMem
  have hField := h key.field (hKeys key hMem)
  constructor
  · intro relation operand
    simp only [comparesTo, hField]
  · intro pattern
    simp only [isLike, hField]

------------------------------------------------------------
-- Classes
------------------------------------------------------------

variable {keys : List Key} {first second : List Record}

/- Records that look the same have the same identity. -/
theorem identityIn_eq_of_sameOn
    (hKeys : ∀ key ∈ keys, key.field ∈ fields)
    (h : r.SameOn fields s) :
    identityIn keys r = identityIn keys s := by
  unfold identityIn
  apply List.map_congr_left
  intro key hMem
  rw [h key.field (hKeys key hMem)]

/- Records that look the same are put in the same classes. -/
theorem forall₂_sameOn_classes
    (hKeys : ∀ key ∈ keys, key.field ∈ fields)
    (h : List.Forall₂ (Record.SameOn fields) first second) :
    List.Forall₂ (List.Forall₂ (Record.SameOn fields))
      (classes keys first) (classes keys second) := by
  have hIdentities :
      first.map (identityIn keys) =
        second.map (identityIn keys) := by
    apply map_eq_map_of_forall₂
    exact h.imp fun _ _ => identityIn_eq_of_sameOn hKeys
  rw [classes_eq, classes_eq]
  unfold identitiesOf
  rw [hIdentities, List.forall₂_map_left_iff,
    List.forall₂_map_right_iff, List.forall₂_same]
  intro shared _
  apply List.rel_filter ?_ h
  intro r s hSame
  dsimp only
  rw [identityIn_eq_of_sameOn hKeys hSame]

------------------------------------------------------------
-- Computed Values
------------------------------------------------------------

/- Records that look the same have the same in a field. -/
private theorem map_get?_eq
    {field : Field}
    (hField : field ∈ fields)
    (h : List.Forall₂ (Record.SameOn fields) first second) :
    first.map (fun record => record.get? field) =
      second.map (fun record => record.get? field) :=
  map_eq_map_of_forall₂
    (h.imp fun _ _ hSame => hSame field hField)

namespace AppliedRule

/- Members that look the same have the same numbers. -/
theorem numbers_eq
    {rule : AppliedRule}
    (hField : rule.key.field ∈ fields)
    (h : List.Forall₂ (Record.SameOn fields) first second) :
    rule.numbers first = rule.numbers second := by
  rw [numbers_eq_mapM, numbers_eq_mapM]
  apply mapM_eq_mapM_of_forall₂
  apply h.imp
  intro r s hSame
  unfold numberOf
  rw [hSame rule.key.field hField]

/- Members that look the same have the same values. -/
theorem countValues_eq
    {rule : AppliedRule}
    (hField : rule.key.field ∈ fields)
    (h : List.Forall₂ (Record.SameOn fields) first second) :
    rule.countValues first = rule.countValues second := by
  have hValues := congrArg
    (List.map (Option.map Value.identity)) (map_get?_eq hField h)
  rw [List.map_map, List.map_map] at hValues
  unfold countValues
  exact congrArg (fun values => values.eraseDups.length) hValues

/- A rule computes the same for members that look the same. -/
theorem evaluate_eq
    {rule : AppliedRule}
    (hField : rule.key.field ∈ fields)
    (h : List.Forall₂ (Record.SameOn fields) first second) :
    rule.evaluate retry first = rule.evaluate retry second := by
  unfold evaluate
  rw [numbers_eq hField h, countValues_eq hField h,
    h.length_eq]

end AppliedRule

namespace Grouping

variable {grouping : Grouping}

/- Classes that look the same have the same summary. -/
theorem summarize_eq
    (hKeys : ∀ key ∈ grouping.allKeys, key.field ∈ fields)
    (h : List.Forall₂ (Record.SameOn fields) first second) :
    grouping.summarize retry first =
      grouping.summarize retry second := by
  rcases List.forall_mem_append.mp hKeys with
    ⟨hGroup, hTargets⟩
  have hShared :
      sharedValues grouping.keys first =
        sharedValues grouping.keys second := by
    unfold sharedValues
    apply List.map_congr_left
    intro key hMem
    cases h with
    | nil => rfl
    | cons hHead _ =>
        simp [hHead key.field (hGroup key hMem)]
  have hEntries :
      (grouping.rules.mapM fun rule => do
        let x ← rule.evaluate retry first
        return (rule.name, x)) =
      grouping.rules.mapM fun rule => do
        let x ← rule.evaluate retry second
        return (rule.name, x) := by
    apply mapM_eq_mapM_of_forall₂
    rw [List.forall₂_same]
    intro rule hMem
    rw [AppliedRule.evaluate_eq
      (hTargets rule.key (List.mem_map_of_mem hMem)) h]
  unfold summarize applyRules
  rw [hShared, hEntries]

/- Records that look the same have the same summaries. -/
theorem summaries_eq
    (hKeys : ∀ key ∈ grouping.allKeys, key.field ∈ fields)
    (h : List.Forall₂ (Record.SameOn fields) first second) :
    grouping.summaries retry first =
      grouping.summaries retry second := by
  have hGroup := (List.forall_mem_append.mp hKeys).1
  unfold summaries
  apply mapM_eq_mapM_of_forall₂
  exact (forall₂_sameOn_classes hGroup h).imp
    fun _ _ => summarize_eq hKeys

end Grouping

------------------------------------------------------------
-- Rows
------------------------------------------------------------

/- Records that look the same become the same row. -/
theorem Source.row?_record_eq
    {columns : List Column}
    (hKeys : ∀ key ∈ columns.filterMap Column.key?,
      key.field ∈ fields)
    (h : r.SameOn fields s) :
    (Source.record r).row? columns =
      (Source.record s).row? columns := by
  have hCells :
      columns.mapM (Source.record r).cell? =
        columns.mapM (Source.record s).cell? := by
    apply mapM_eq_mapM_of_forall₂
    rw [List.forall₂_same]
    intro column hMem
    cases column with
    | applied name => rfl
    | stored key =>
        have hField := h key.field
          (hKeys key (List.mem_filterMap.mpr ⟨_, hMem, rfl⟩))
        simp only [cell?, value?, get?, hField]
  unfold row?
  rw [hCells]

namespace Query

variable {query : Query}

private theorem forall₂_sameOn_matched
    (hKeys : ∀ key ∈ query.condition.keys, key.field ∈ fields)
    (h : List.Forall₂ (Record.SameOn fields) first second) :
    List.Forall₂ (Record.SameOn fields)
      (query.matched first) (query.matched second) := by
  apply List.rel_filter ?_ h
  intro r s hSame
  dsimp only
  rw [Condition.holds_eq hSame query.condition hKeys]

/- Records that look the same become the same rows. -/
theorem unordered_eq
    (hKeys : ∀ key ∈ query.keys, key.field ∈ fields)
    (h : List.Forall₂ (Record.SameOn fields) first second) :
    query.unordered retry first =
      query.unordered retry second := by
  rcases List.forall_mem_append.mp hKeys with
    ⟨hCondition, hRest⟩
  rcases List.forall_mem_append.mp hRest with
    ⟨hSelection, hGrouping⟩
  have hMatched := forall₂_sameOn_matched hCondition h
  unfold unordered sources
  cases hCase : query.grouping with
  | none =>
      have hRows :
          (query.matched first).map (fun record =>
              (Source.record record).row?
                query.selection.columns) =
            (query.matched second).map fun record =>
              (Source.record record).row?
                query.selection.columns := by
        apply map_eq_map_of_forall₂
        apply hMatched.imp
        intro r s hSame
        apply Source.row?_record_eq ?_ hSame
        exact fun key hMem =>
          hSelection key (List.mem_append_left _ hMem)
      have hKept := congrArg (List.filterMap id) hRows
      simpa [List.filterMap_map, Function.comp_def] using hKept
  | some grouping =>
      rw [hCase] at hGrouping
      dsimp only
      rw [Grouping.summaries_eq hGrouping hMatched]

/- The answer is the same, however texts are ordered. -/
theorem answerBy_eq
    (collate : TextOrder)
    (hKeys : ∀ key ∈ query.keys, key.field ∈ fields)
    (h : List.Forall₂ (Record.SameOn fields) first second) :
    query.answerBy collate retry first =
      query.answerBy collate retry second := by
  unfold answerBy
  rw [unordered_eq hKeys h]

/- A query suits a kind if its keys are fields of the kind. -/
theorem checkKind_eq_ok_iff {kind : Kind} :
    query.checkKind kind = .ok () ↔
      ∀ key ∈ query.keys, key.field.kind = kind := by
  unfold checkKind
  split
  · next key hFound =>
      have hMem := List.mem_of_find?_eq_some hFound
      have hOther : key.field.kind ≠ kind := by
        simpa using List.find?_some hFound
      constructor
      · intro h
        cases h
      · exact fun h => absurd (h key hMem) hOther
  · next hNone =>
      rw [List.find?_eq_none] at hNone
      constructor
      · intro _ key hMem
        simpa using hNone key hMem
      · exact fun _ => rfl

/-
  The answer to a query on two data sets, of any ids and kinds
  and however texts are ordered, is the same if their records
  have the same in the fields of the query's keys, one by one.
  If the query suits a kind, it is enough that they have the same
  in the fields of that kind.
-/
theorem answer_sees_only_keys
    (collate : TextOrder)
    (query : Query)
    (first second : DataSet) :
    (List.Forall₂
        (Record.SameOn (query.keys.map Key.field))
        first.records second.records →
      query.answerBy collate retry first.records =
        query.answerBy collate retry second.records) ∧
    ∀ kind, query.checkKind kind = .ok () →
      List.Forall₂ (Record.SameOn kind.fields)
        first.records second.records →
      query.answerBy collate retry first.records =
        query.answerBy collate retry second.records := by
  refine ⟨?_, ?_⟩
  · intro h
    exact answerBy_eq _
      (fun _ hMem => List.mem_map_of_mem hMem) h
  · intro kind hKind h
    apply answerBy_eq _ ?_ h
    intro key hMem
    rw [Kind.mem_fields_iff]
    exact checkKind_eq_ok_iff.mp hKind key hMem

/- A title is not seen, and no field of rooms is. -/
theorem answer_sees_only_keys_titles :
    let retry : Decimal.Conversion := Decimal.noRetry
    let collate := Collation.compareTexts
    let dept : Key := ⟨"ubc", .dept⟩
    let query : Query :=
      ⟨⟨.comparison .above ⟨"ubc", .avg⟩ Binary64.zero,
          ⟨[.stored dept, .applied "n"],
            some (.single (.applied "n"))⟩,
          some ⟨[dept], [⟨"n", .count, ⟨"ubc", .year⟩⟩]⟩⟩,
        "ubc"⟩
    let record (title : String) (seats : Nat) : Record :=
      ⟨[("avg", .number (Binary64.ofNat 90)),
        ("dept", .text "math"),
        ("seats", .number (Binary64.ofNat seats)),
        ("title", .text title)]⟩
    let first : DataSet := ⟨"ubc", .sections, [record "a" 1]⟩
    let second : DataSet := ⟨"sfu", .rooms, [record "b" 1]⟩
    let third : DataSet := ⟨"ubc", .sections, [record "a" 2]⟩
    (first.records ≠ second.records ∧
      List.Forall₂ (Record.SameOn (query.keys.map Key.field))
        first.records second.records ∧
      query.answerBy collate retry first.records =
        query.answerBy collate retry second.records) ∧
    first.records ≠ third.records ∧
    query.checkKind .sections = .ok () ∧
    List.Forall₂ (Record.SameOn (Kind.fields .sections))
      first.records third.records ∧
    query.answerBy collate retry first.records =
      query.answerBy collate retry third.records := by
  intro retry collate dept query record first second third
  have hKeys :
      List.Forall₂ (Record.SameOn (query.keys.map Key.field))
        first.records second.records := by
    decide +kernel
  have hKind : query.checkKind .sections = .ok () := by
    decide +kernel
  have hFields :
      List.Forall₂ (Record.SameOn (Kind.fields .sections))
        first.records third.records := by
    decide +kernel
  refine ⟨⟨by decide +kernel, hKeys, ?_⟩,
    by decide +kernel, hKind, hFields, ?_⟩
  · exact (answer_sees_only_keys collate query first second).1 hKeys
  · exact (answer_sees_only_keys collate query first third).2
      .sections hKind hFields

end Query

end Registrar
