import Registrar.Proofs.Answer.Typing

/-
  This file proves when the answer to a query fails, and how.

  It fails if a rule that needs numbers meets a matched record
  without one, however the records are put in classes.  The
  failure names the first class that fails a rule, of its rules
  the first one that fails, and of its members the first one
  without a number.  In particular, no class is empty.

  Key definitions include:
    * `Record.HasNumber`
    * `Record.LacksNumber`
    * `AppliedRule.FailsOn`
    * `AppliedRule.FirstFault`
    * `Grouping.FirstFault`

  Main statements:
    * `AppliedRule.evaluate_eq_error_iff`
    * `AppliedRule.exists_failing_class_iff`
    * `Query.answerBy_eq_error_iff`
    * `Query.answerBy_fails_iff`
-/

------------------------------------------------------------
-- Records Without Numbers
------------------------------------------------------------

namespace Registrar

variable {retry : Decimal.Conversion}

namespace Record

/- A record holds a number in a field. -/
def HasNumber
    (field : Field)
    (record : Record) : Prop :=
  ∃ x, record.get? field = some (.number x)

/- A record holds no number in a field; what it has instead. -/
inductive LacksNumber
    (field : Field)
    (record : Record) : NotNumeric → Prop where
| text
    {s : String}
    (h : record.get? field = some (.text s)) :
    LacksNumber field record (.text s)
| missing
    (h : record.get? field = none) :
    LacksNumber field record .missing

/- A record holds a number, or something else stands there. -/
theorem exists_lacksNumber_iff
    {field : Field}
    {record : Record} :
    (∃ found, record.LacksNumber field found) ↔
      ¬ record.HasNumber field := by
  constructor
  · rintro ⟨found, hFound⟩ ⟨x, hX⟩
    cases hFound with
    | text h => simp [h] at hX
    | missing h => simp [h] at hX
  · intro hNone
    match h : record.get? field with
    | none => exact ⟨_, .missing h⟩
    | some (.text s) => exact ⟨_, .text h⟩
    | some (.number x) => exact absurd ⟨x, h⟩ hNone

end Record

------------------------------------------------------------
-- Rules That Fail
------------------------------------------------------------

/- All aggregates but the count need numbers. -/
private theorem Aggregate.needsNumbers_iff
    {aggregate : Aggregate} :
    aggregate.needsNumbers = true ↔ aggregate ≠ .count := by
  cases aggregate <;> simp [needsNumbers]

namespace AppliedRule

/-
  A rule that needs numbers fails on records if its field holds
  texts, or if one of the records holds no number there.
-/
def FailsOn
    (rule : AppliedRule)
    (records : List Record) : Prop :=
  rule.aggregate ≠ .count ∧
    (rule.key.field.domain = .textual ∨
      rule.key.field.domain = .numeric ∧
        ∃ record ∈ records, ∃ found,
          record.LacksNumber rule.key.field found)

/-
  What a rule that needs numbers finds first: that its field
  holds texts, or else what the first of the members without a
  number has instead.
-/
inductive FirstFault
    (rule : AppliedRule)
    (members : List Record) : NotNumeric → Prop where
| field
    (hAggregate : rule.aggregate ≠ .count)
    (hDomain : rule.key.field.domain = .textual) :
    FirstFault rule members .textualField
| member
    {before after : List Record}
    {record : Record}
    {found : NotNumeric}
    (hAggregate : rule.aggregate ≠ .count)
    (hDomain : rule.key.field.domain = .numeric)
    (hSplit : members = before ++ record :: after)
    (hBefore : ∀ r ∈ before, r.HasNumber rule.key.field)
    (hLacks : record.LacksNumber rule.key.field found) :
    FirstFault rule members found

variable {rule : AppliedRule} {failure : Failure}

/- A record has no number for a rule if it holds none. -/
theorem numberOf_eq_error_iff
    {record : Record} :
    rule.numberOf record = .error failure ↔
      ∃ found, record.LacksNumber rule.key.field found ∧
        failure =
          .notNumeric rule.aggregate rule.key found := by
  unfold numberOf
  constructor
  · intro h
    split at h
    · cases h
    · next hText => exact ⟨_, .text hText, by cases h; rfl⟩
    · next hNone => exact ⟨_, .missing hNone, by cases h; rfl⟩
  · rintro ⟨found, hFound, rfl⟩
    cases hFound with
    | text hText => rw [hText]
    | missing hNone => rw [hNone]

/- Members fail as the first one without a number does. -/
theorem numbers_eq_error_iff
    {members : List Record} :
    rule.numbers members = .error failure ↔
      ∃ before record after found,
        members = before ++ record :: after ∧
          (∀ r ∈ before, r.HasNumber rule.key.field) ∧
          record.LacksNumber rule.key.field found ∧
          failure =
            .notNumeric rule.aggregate rule.key found := by
  rw [numbers_eq_mapM, mapM_eq_error_iff]
  simp only [numberOf_eq_error_iff, numberOf_eq_ok_iff]
  constructor
  · rintro ⟨before, record, after, hSplit, hBefore, found, hLacks,
      hFailure⟩
    exact ⟨before, record, after, found, hSplit, hBefore, hLacks,
      hFailure⟩
  · rintro ⟨before, record, after, found, hSplit, hBefore, hLacks,
      hFailure⟩
    exact ⟨before, record, after, hSplit, hBefore, found, hLacks,
      hFailure⟩

/- There is an extreme of the numbers of at least one member. -/
private theorem numbers_bind_extreme_eq_error_iff
    {members : List Record}
    (pick : Binary64 → Binary64 → Binary64)
    (hNe : members ≠ []) :
    (rule.numbers members >>= rule.extreme pick) =
        .error failure ↔
      rule.numbers members = .error failure := by
  rw [bind_eq_error_iff, or_iff_left_iff_imp]
  rintro ⟨xs, hXs, hExtreme⟩
  cases xs with
  | nil =>
      have hNil := numbers_eq_ok_iff.mp hXs
      exact absurd (List.forall₂_nil_right_iff.mp hNil) hNe
  | cons first rest => cases hExtreme

/- A rule that needs numbers fails as these do. -/
private theorem evaluate_eq_numbers_error_iff
    {members : List Record}
    (hNe : members ≠ [])
    (hAggregate : rule.aggregate ≠ .count)
    (hDomain : rule.key.field.domain = .numeric) :
    rule.evaluate retry members = .error failure ↔
      rule.numbers members = .error failure := by
  unfold evaluate
  rw [if_neg fun h => h.2 hDomain]
  split
  · next hCount => exact absurd hCount hAggregate
  · exact numbers_bind_extreme_eq_error_iff _ hNe
  · exact numbers_bind_extreme_eq_error_iff _ hNe
  · exact bind_pure_eq_error_iff
  · exact bind_pure_eq_error_iff

/- A rule fails a class with what it finds first. -/
theorem evaluate_eq_error_iff
    {members : List Record}
    (hNe : members ≠ []) :
    rule.evaluate retry members = .error failure ↔
      ∃ found, rule.FirstFault members found ∧
        failure =
          .notNumeric rule.aggregate rule.key found := by
  by_cases hAggregate : rule.aggregate = .count
  · have hOk : rule.evaluate retry members ≠ .error failure := by
      simp [evaluate, hAggregate, Aggregate.needsNumbers]
    refine iff_of_false hOk ?_
    rintro ⟨found, hFault, -⟩
    cases hFault with
    | field hNot => exact hNot hAggregate
    | member hNot => exact hNot hAggregate
  cases hDomain : rule.key.field.domain with
  | textual =>
      have hNeeds := Aggregate.needsNumbers_iff.mpr hAggregate
      have hFails : rule.evaluate retry members =
          .error (.notNumeric rule.aggregate rule.key
            .textualField) := by
        simp [evaluate, hNeeds, hDomain]
      rw [hFails, Except.error.injEq]
      constructor
      · intro h
        exact ⟨_, .field hAggregate hDomain, h.symm⟩
      · rintro ⟨found, hFault, rfl⟩
        cases hFault with
        | field => rfl
        | member _ hOther => simp [hDomain] at hOther
  | numeric =>
      rw [evaluate_eq_numbers_error_iff hNe hAggregate hDomain,
        numbers_eq_error_iff]
      constructor
      · rintro ⟨before, record, after, found, hSplit, hBefore,
          hLacks, hFailure⟩
        exact ⟨found, .member hAggregate hDomain hSplit hBefore
          hLacks, hFailure⟩
      · rintro ⟨found, hFault, hFailure⟩
        cases hFault with
        | field _ hOther => simp [hDomain] at hOther
        | member _ _ hSplit hBefore hLacks =>
            exact ⟨_, _, _, found, hSplit, hBefore, hLacks,
              hFailure⟩

/- A rule fails on records if and only if it finds a fault. -/
theorem failsOn_iff_exists_firstFault
    {members : List Record} :
    rule.FailsOn members ↔
      ∃ found, rule.FirstFault members found := by
  constructor
  · rintro ⟨hAggregate,
      hDomain | ⟨hDomain, record, hMem, hLacks⟩⟩
    · exact ⟨_, .field hAggregate hDomain⟩
    · cases hNumbers : rule.numbers members with
      | ok xs =>
          rcases exists_right_of_forall₂
              (numbers_eq_ok_iff.mp hNumbers) hMem with
            ⟨x, -, hX⟩
          exact absurd ⟨x, hX⟩
            (Record.exists_lacksNumber_iff.mp hLacks)
      | error failure =>
          rcases numbers_eq_error_iff.mp hNumbers with
            ⟨before, first, after, found, hSplit, hBefore,
              hFirst, -⟩
          exact ⟨found, .member hAggregate hDomain hSplit hBefore
            hFirst⟩
  · rintro ⟨found, hFault⟩
    cases hFault with
    | field hAggregate hDomain =>
        exact ⟨hAggregate, .inl hDomain⟩
    | @member before after record _ hAggregate hDomain hSplit _
        hLacks =>
        have hMem : record ∈ members := by simp [hSplit]
        exact ⟨hAggregate,
          .inr ⟨hDomain, record, hMem, found, hLacks⟩⟩

/- A rule computes a number for a class unless it fails on it. -/
theorem exists_evaluate_iff
    {members : List Record}
    (hNe : members ≠ []) :
    (∃ x, rule.evaluate retry members = .ok x) ↔
      ¬ rule.FailsOn members := by
  rw [failsOn_iff_exists_firstFault]
  constructor
  · rintro ⟨x, hX⟩ ⟨found, hFault⟩
    have hFails : rule.evaluate retry members = .error _ :=
      (evaluate_eq_error_iff hNe).mpr ⟨found, hFault, rfl⟩
    simp [hX] at hFails
  · intro hNone
    cases hCase : rule.evaluate retry members with
    | ok x => exact ⟨x, rfl⟩
    | error failure =>
        rcases (evaluate_eq_error_iff hNe).mp hCase with
          ⟨found, hFault, -⟩
        exact absurd ⟨found, hFault⟩ hNone

/- A rule that fails on some of the records fails on all. -/
theorem FailsOn.mono
    {members records : List Record}
    (h : rule.FailsOn members)
    (hSubset : members ⊆ records) :
    rule.FailsOn records := by
  rcases h with
    ⟨hAggregate, hDomain | ⟨hDomain, record, hMem, hLacks⟩⟩
  · exact ⟨hAggregate, .inl hDomain⟩
  · exact ⟨hAggregate,
      .inr ⟨hDomain, record, hSubset hMem, hLacks⟩⟩

/-
  A rule fails on one of the classes if and only if there are
  records and it fails on all of them together.
-/
theorem exists_failing_class_iff
    {keys : List Key}
    {records : List Record} :
    (∃ members ∈ classes keys records, rule.FailsOn members) ↔
      records ≠ [] ∧ rule.FailsOn records := by
  constructor
  · rintro ⟨members, hMembers, hFails⟩
    have hSubset := (sublist_of_mem_classes hMembers).subset
    refine ⟨?_, hFails.mono hSubset⟩
    rintro rfl
    exact ne_nil_of_mem_classes hMembers
      (List.subset_nil.mp hSubset)
  · rintro ⟨hNe, hAggregate, hDomain | ⟨hDomain, record, hMem,
      hLacks⟩⟩
    · rcases List.exists_mem_of_ne_nil records hNe with
        ⟨first, hFirst⟩
      exact ⟨_, mem_classes_iff.mpr ⟨first, hFirst, rfl⟩,
        hAggregate, .inl hDomain⟩
    · refine ⟨_, mem_classes_iff.mpr ⟨record, hMem, rfl⟩,
        hAggregate, .inr ⟨hDomain, record, ?_, hLacks⟩⟩
      exact mem_sharing_iff.mpr ⟨hMem, rfl⟩

end AppliedRule

------------------------------------------------------------
-- Groupings That Fail
------------------------------------------------------------

namespace Grouping

/-
  How a grouping fails: in the first class that fails a rule, at
  the first rule that fails on it, with what this rule finds
  first.
-/
inductive FirstFault
    (grouping : Grouping)
    (groups : List (List Record)) : Failure → Prop where
| intro
    {earlier later : List (List Record)}
    {members : List Record}
    {before after : List AppliedRule}
    {rule : AppliedRule}
    {found : NotNumeric}
    (hGroups : groups = earlier ++ members :: later)
    (hEarlier : ∀ others ∈ earlier, ∀ r ∈ grouping.rules,
      ¬ r.FailsOn others)
    (hRules : grouping.rules = before ++ rule :: after)
    (hBefore : ∀ r ∈ before, ¬ r.FailsOn members)
    (hFault : rule.FirstFault members found) :
    FirstFault grouping groups
      (.notNumeric rule.aggregate rule.key found)

variable {grouping : Grouping} {failure : Failure}

/- A class fails a grouping as the first rule does that fails. -/
theorem summarize_eq_error_iff
    {members : List Record}
    (hNe : members ≠ []) :
    grouping.summarize retry members = .error failure ↔
      ∃ before rule after found,
        grouping.rules = before ++ rule :: after ∧
          (∀ r ∈ before, ¬ r.FailsOn members) ∧
          rule.FirstFault members found ∧
          failure =
            .notNumeric rule.aggregate rule.key found := by
  unfold summarize applyRules
  rw [bind_pure_eq_error_iff, bind_pure_eq_error_iff,
    mapM_eq_error_iff]
  have hOk : ∀ rule : AppliedRule,
      (∃ entry, (do
        let x ← rule.evaluate retry members
        return (rule.name, x)) = Except.ok entry) ↔
        ¬ rule.FailsOn members := by
    intro rule
    rw [← AppliedRule.exists_evaluate_iff hNe]
    cases rule.evaluate retry members <;> simp [pure, Except.pure]
  simp only [hOk, bind_pure_eq_error_iff,
    AppliedRule.evaluate_eq_error_iff hNe]
  constructor
  · rintro ⟨before, rule, after, hSplit, hBefore, found, hFault,
      hFailure⟩
    exact ⟨before, rule, after, found, hSplit, hBefore, hFault,
      hFailure⟩
  · rintro ⟨before, rule, after, found, hSplit, hBefore, hFault,
      hFailure⟩
    exact ⟨before, rule, after, hSplit, hBefore, found, hFault,
      hFailure⟩

/- A class has a summary unless a rule fails on it. -/
theorem exists_summarize_iff_failsOn
    {members : List Record}
    (hNe : members ≠ []) :
    (∃ summary, grouping.summarize retry members = .ok summary) ↔
      ∀ rule ∈ grouping.rules, ¬ rule.FailsOn members := by
  simp only [exists_summarize_iff,
    AppliedRule.exists_evaluate_iff hNe]

/- Classes fail a grouping as the first one does that fails. -/
theorem summaries_eq_error_iff
    {records : List Record} :
    grouping.summaries retry records = .error failure ↔
      grouping.FirstFault (classes grouping.keys records)
        failure := by
  unfold summaries
  rw [mapM_eq_error_iff]
  constructor
  · rintro ⟨earlier, members, later, hSplit, hEarlier, hFails⟩
    have hNe : ∀ others ∈ earlier ++ members :: later,
        others ≠ [] := fun others hMem =>
      ne_nil_of_mem_classes (hSplit ▸ hMem)
    rcases (summarize_eq_error_iff (hNe members (by simp))).mp
        hFails with
      ⟨before, rule, after, found, hRules, hBefore, hFault, rfl⟩
    refine .intro hSplit ?_ hRules hBefore hFault
    intro others hMem
    exact (exists_summarize_iff_failsOn
      (hNe others (List.mem_append_left _ hMem))).mp
        (hEarlier others hMem)
  · rintro ⟨hSplit, hEarlier, hRules, hBefore, hFault⟩
    have hNe : ∀ others ∈ classes grouping.keys records,
        others ≠ [] := fun _ => ne_nil_of_mem_classes
    rw [hSplit] at hNe
    refine ⟨_, _, _, hSplit, ?_,
      (summarize_eq_error_iff (hNe _ (by simp))).mpr
        ⟨_, _, _, _, hRules, hBefore, hFault, rfl⟩⟩
    intro others hMem
    exact (exists_summarize_iff_failsOn
      (hNe others (List.mem_append_left _ hMem))).mpr
        (hEarlier others hMem)

end Grouping

------------------------------------------------------------
-- Answers That Fail
------------------------------------------------------------

namespace Query

variable
  {query : Query}
  {records : List Record}
  {failure : Failure}
  {collate : TextOrder}

/- A query fails as its grouping does on the matched records. -/
theorem answerBy_eq_error_iff :
    query.answerBy collate retry records = .error failure ↔
      ∃ grouping ∈ query.grouping,
        grouping.FirstFault
          (classes grouping.keys (query.matched records))
          failure := by
  unfold answerBy unordered sources
  cases query.grouping with
  | none => simp
  | some grouping =>
      have hSummaries :
          grouping.summaries retry (query.matched records) =
            .error failure ↔ _ :=
        Grouping.summaries_eq_error_iff
      simp only [Option.mem_def, Option.some.injEq,
        exists_eq_left', ← hSummaries]
      cases grouping.summaries retry (query.matched records) <;>
        simp

/-
  An answer fails only because a rule of the grouping meets what
  is not a number.
-/
theorem exists_notNumeric_of_answerBy
    (h : query.answerBy collate retry records = .error failure) :
    ∃ grouping ∈ query.grouping, ∃ rule ∈ grouping.rules,
      ∃ found, failure =
        .notNumeric rule.aggregate rule.key found := by
  rcases answerBy_eq_error_iff.mp h with
    ⟨grouping, hGrouping, hFault⟩
  rcases hFault with ⟨-, -, hRules, -, -⟩
  refine ⟨grouping, hGrouping, _, ?_, _, rfl⟩
  rw [hRules]
  exact List.mem_append_right _ List.mem_cons_self

/- A query has an answer unless a class fails one of its rules. -/
theorem exists_answerBy_iff_failsOn :
    (∃ rows, query.answerBy collate retry records = .ok rows) ↔
      ∀ grouping ∈ query.grouping, ∀ rule ∈ grouping.rules,
        ∀ members ∈
            classes grouping.keys (query.matched records),
          ¬ rule.FailsOn members := by
  rw [exists_answerBy_iff]
  cases hGrouping : query.grouping with
  | none => simp [sources, hGrouping]
  | some grouping =>
      have hSummaries :
          (∃ sources, query.sources retry records = .ok sources) ↔
            ∀ members ∈
                classes grouping.keys (query.matched records),
              ∃ summary, grouping.summarize retry members =
                .ok summary := by
        simp only [sources_eq_ok_iff hGrouping]
        rw [← exists_forall₂_iff]
        constructor
        · rintro ⟨_, summaries, h, -⟩
          exact ⟨summaries, h⟩
        · rintro ⟨summaries, h⟩
          exact ⟨_, summaries, h, rfl⟩
      rw [hSummaries]
      constructor
      · rintro h _ ⟨⟩ rule hRule members hMembers
        exact (Grouping.exists_summarize_iff_failsOn
          (ne_nil_of_mem_classes hMembers)).mp
            (h members hMembers) rule hRule
      · intro h members hMembers
        exact (Grouping.exists_summarize_iff_failsOn
          (ne_nil_of_mem_classes hMembers)).mpr
            fun rule hRule =>
              h grouping rfl rule hRule members hMembers

/- Some record is matched if one meets the condition. -/
private theorem matched_ne_nil_iff :
    query.matched records ≠ [] ↔
      ∃ record ∈ records, query.condition.holds record = true := by
  rw [matched, Ne, List.filter_eq_nil_iff]
  push Not
  rfl

/-
  An answer fails if and only if the query has a grouping, some
  record meets the condition, and a rule fails on the records
  that do, shown or not.  It then fails in the first class of
  these that fails a rule, at the first of its rules and of its
  members that does; no failure is that of an empty class.
-/
theorem answerBy_fails_iff
    (query : Query)
    (records : List Record)
    (collate : TextOrder)
    (retry : Decimal.Conversion) :
    let met := records.filter fun record =>
      query.condition.holds record
    ((∃ failure,
        query.answerBy collate retry records = .error failure) ↔
      ∃ grouping ∈ query.grouping,
        (∃ record ∈ records,
          query.condition.holds record = true) ∧
        ∃ rule ∈ grouping.rules, rule.FailsOn met) ∧
    (∀ failure,
      query.answerBy collate retry records = .error failure ↔
        ∃ grouping ∈ query.grouping,
          grouping.FirstFault (classes grouping.keys met)
            failure) ∧
    ∀ aggregate, query.answerBy collate retry records ≠
      .error (.emptyClass aggregate) := by
  intro met
  refine ⟨?_, fun _ => answerBy_eq_error_iff, ?_⟩
  · have hSplit :
        (∃ failure, query.answerBy collate retry records =
            .error failure) ↔
          ¬ ∃ rows, query.answerBy collate retry records =
            .ok rows := by
      cases query.answerBy collate retry records <;> simp
    rw [hSplit, exists_answerBy_iff_failsOn]
    simp only [← matched_ne_nil_iff]
    constructor
    · intro h
      push Not at h
      rcases h with
        ⟨grouping, hGrouping, rule, hRule, members, hMembers,
          hFails⟩
      rcases AppliedRule.exists_failing_class_iff.mp
          ⟨members, hMembers, hFails⟩ with
        ⟨hNe, hAll⟩
      exact ⟨grouping, hGrouping, hNe, rule, hRule, hAll⟩
    · rintro ⟨grouping, hGrouping, hNe, rule, hRule, hAll⟩ h
      have hClass : ∃ members ∈
          classes grouping.keys (query.matched records),
          rule.FailsOn members :=
        AppliedRule.exists_failing_class_iff.mpr ⟨hNe, hAll⟩
      rcases hClass with ⟨members, hMembers, hFails⟩
      exact h grouping hGrouping rule hRule members hMembers
        hFails
  · intro aggregate h
    rcases exists_notNumeric_of_answerBy h with
      ⟨_, -, _, -, _, hFailure⟩
    cases hFailure

end Query

end Registrar
