import Registrar.Answer.Execution
import Registrar.Proofs.Answer.Classes
import Registrar.Proofs.Data.Records
import Registrar.Proofs.Numeric.Bits

/-
  This file proves that a grouping is the partition of the
  matched records by the values of its keys, and what the
  summary of each class carries.

  Key definitions include:
    * `Value.Agree`
    * `Record.AgreesOn`
    * `IsPartition`
    * `Grouping.Describes`

  Main statements:
    * `identityIn_eq_iff`
    * `classes_isPartition`
    * `Grouping.describes_of_summarize`
    * `Query.sources_partition`
-/

------------------------------------------------------------
-- Values That Agree
------------------------------------------------------------

namespace Registrar

variable {retry : Decimal.Conversion}

/-
  Two values that a field can have agree if both lack or are
  numerically equal numbers or the same text.
-/
def Value.Agree : Option Value → Option Value → Prop
| none, none => True
| some (.number x), some (.number y) => x.isSame y = true
| some (.text s), some (.text t) => s = t
| _, _ => False

/- Two records agree on the fields of some keys. -/
def Record.AgreesOn
    (keys : List Key)
    (r s : Record) : Prop :=
  ∀ key ∈ keys,
    Value.Agree (r.get? key.field) (s.get? key.field)

/- Identities are equal if and only if the values agree. -/
theorem Value.map_identity_eq_iff
    {a b : Option Value}
    (ha : ∀ value ∈ a, ¬ value.IsNan)
    (hb : ∀ value ∈ b, ¬ value.IsNan) :
    a.map Value.identity = b.map Value.identity ↔
      Value.Agree a b := by
  match a, b with
  | none, none => simp [Agree]
  | none, some y => simp [Agree]
  | some x, none => simp [Agree]
  | some (.text s), some (.text t) => simp [Agree, identity]
  | some (.text s), some (.number y) =>
      simp only [Agree, identity, Option.map_some]
      split <;> simp
  | some (.number x), some (.text t) =>
      simp only [Agree, identity, Option.map_some]
      split <;> simp
  | some (.number x), some (.number y) =>
      have hx : ¬ x.IsNan := ha (.number x) rfl
      have hy : ¬ y.IsNan := hb (.number y) rfl
      rw [Option.map_some, Option.map_some, Option.some.injEq]
      exact identity_number_eq_iff hx hy

/- Records share an identity if and only if they agree. -/
theorem identityIn_eq_iff
    {keys : List Key}
    {r s : Record}
    (hr : r.WithoutNan)
    (hs : s.WithoutNan) :
    identityIn keys r = identityIn keys s ↔
      Record.AgreesOn keys r s := by
  have hNumbers :
      ∀ {record : Record} {field : Field}, record.WithoutNan →
        ∀ value ∈ record.get? field, ¬ value.IsNan :=
    fun hRecord value hGet =>
      hRecord value (Record.mem_values_of_get? hGet)
  unfold identityIn Record.AgreesOn
  rw [List.map_inj_left]
  apply forall₂_congr
  intro key _
  exact Value.map_identity_eq_iff (hNumbers hr) (hNumbers hs)

------------------------------------------------------------
-- Partitions
------------------------------------------------------------

/-
  Records put in groups by the values of some keys: no record
  is lost or doubled, each is in exactly one group, those are
  together that agree, and all keep their order.
-/
structure IsPartition
    (keys : List Key)
    (records : List Record)
    (groups : List (List Record)) : Prop where
  flatten_perm : groups.flatten.Perm records
  existsUnique : ∀ r ∈ records, ∃! number : Nat,
    ∃ members, groups[number]? = some members ∧ r ∈ members
  together_iff : ∀ r ∈ records, ∀ s ∈ records,
    (∃ members ∈ groups, r ∈ members ∧ s ∈ members) ↔
      Record.AgreesOn keys r s
  ne_nil : ∀ members ∈ groups, members ≠ []
  sublist : ∀ members ∈ groups, members.Sublist records
  first_lt_first : groups.Pairwise fun earlier later =>
    records.findIdx (· ∈ earlier) <
      records.findIdx (· ∈ later)

/- The classes are a partition. -/
theorem classes_isPartition
    {keys : List Key}
    {records : List Record}
    (h : ∀ record ∈ records, record.WithoutNan) :
    IsPartition keys records (classes keys records) where
  flatten_perm := flatten_classes_perm keys records
  existsUnique := fun _ hMem => existsUnique_class hMem
  together_iff := fun r hr s hs =>
    (exists_class_iff hr hs).trans
      (identityIn_eq_iff (h r hr) (h s hs))
  ne_nil := fun _ => ne_nil_of_mem_classes
  sublist := fun _ => sublist_of_mem_classes
  first_lt_first := classes_pairwise_findIdx keys records

------------------------------------------------------------
-- Summaries Of Classes
------------------------------------------------------------

namespace Grouping

/- The rule of a name; of several, the last one. -/
def rule?
    (grouping : Grouping)
    (name : String) : Option AppliedRule :=
  grouping.rules.reverse.find? fun rule => rule.name = name

/-
  What the summary of a class carries: the key values of its
  first member, and under each name the number that its rule
  computes for the members.
-/
structure Describes
    (retry : Decimal.Conversion)
    (grouping : Grouping)
    (members : List Record)
    (summary : Summary) : Prop where
  get?_eq : ∀ first ∈ members.head?, ∀ key ∈ grouping.keys,
    summary.get? key.field = first.get? key.field
  evaluate_eq_ok : ∀ rule ∈ grouping.rules,
    ∃ x, rule.evaluate retry members = .ok x
  applied?_eq : ∀ name,
    summary.applied? name =
      (grouping.rule? name).bind fun rule =>
        (rule.evaluate retry members).toOption

/- The rule of a name is one of the rules, and so named. -/
theorem mem_of_rule?
    {grouping : Grouping}
    {name : String}
    {rule : AppliedRule}
    (h : grouping.rule? name = some rule) :
    rule ∈ grouping.rules ∧ rule.name = name :=
  ⟨List.mem_reverse.mp (List.mem_of_find?_eq_some h),
    by simpa using List.find?_some h⟩

/- If names differ, the rule of a name is the only one. -/
theorem rule?_name_eq
    {grouping : Grouping}
    {rule : AppliedRule}
    (hNodup : (grouping.rules.map AppliedRule.name).Nodup)
    (hMem : rule ∈ grouping.rules) :
    grouping.rule? rule.name = some rule := by
  cases hFind : grouping.rule? rule.name with
  | none =>
      have hOther := List.find?_eq_none.mp hFind rule
        (List.mem_reverse.mpr hMem)
      simp at hOther
  | some other =>
      rcases mem_of_rule? hFind with ⟨hOther, hName⟩
      rw [List.inj_on_of_nodup_map hNodup hOther hMem hName]

private theorem lookup_sharedValues
    {keys : List Key}
    {key : Key}
    (members : List Record)
    (hMem : key ∈ keys) :
    (sharedValues keys members).lookup key.field =
      some (members.head?.bind fun record =>
        record.get? key.field) := by
  induction keys with
  | nil => cases hMem
  | cons first rest ih =>
      unfold sharedValues at ih ⊢
      rw [List.map_cons, List.lookup_cons]
      by_cases hEq : key.field = first.field
      · simp [hEq]
      · have hRest : key ∈ rest := by
          rcases List.mem_cons.mp hMem with hFirst | hRest
          · exact absurd (congrArg Key.field hFirst) hEq
          · exact hRest
        rw [beq_eq_false_iff_ne.mpr hEq]
        exact ih hRest

private theorem lookup_eq_bind_evaluate
    {members : List Record}
    {rules : List AppliedRule}
    {entries : List (String × Binary64)}
    (h : List.Forall₂
      (fun rule entry =>
        rule.name = entry.1 ∧
          rule.evaluate retry members = .ok entry.2)
      rules entries)
    (name : String) :
    entries.lookup name =
      (rules.find? fun rule => rule.name = name).bind
        fun rule => (rule.evaluate retry members).toOption := by
  induction h with
  | nil => rfl
  | @cons rule entry rules entries hHead _ ih =>
      rcases entry with ⟨other, x⟩
      rcases hHead with ⟨hName, hValue⟩
      dsimp only at hName hValue
      subst hName
      rw [List.lookup_cons, List.find?_cons]
      by_cases hEq : rule.name = name
      · simp [hEq, hValue, Except.toOption]
      · have hNe : (name == rule.name) = false :=
          beq_eq_false_iff_ne.mpr fun h => hEq h.symm
        simp [hEq, hNe, ih]

/- The summary of a class describes it. -/
theorem describes_of_summarize
    {grouping : Grouping}
    {members : List Record}
    {summary : Summary}
    (h : grouping.summarize retry members = .ok summary) :
    grouping.Describes retry members summary := by
  rcases bind_eq_ok_iff.mp h with ⟨applied, hApplied, hSummary⟩
  cases hSummary
  rcases bind_eq_ok_iff.mp hApplied with
    ⟨entries, hEntries, hDirectory⟩
  cases hDirectory
  have hRules : List.Forall₂
      (fun (rule : AppliedRule) (entry : String × Binary64) =>
        rule.name = entry.1 ∧
          rule.evaluate retry members = .ok entry.2)
      grouping.rules entries := by
    apply (mapM_eq_ok_iff.mp hEntries).imp
    intro rule entry hEntry
    rcases bind_eq_ok_iff.mp hEntry with ⟨x, hValue, hPair⟩
    cases hPair
    exact ⟨rfl, hValue⟩
  refine ⟨?_, ?_, ?_⟩
  · intro first hFirst key hKey
    unfold Summary.get?
    rw [lookup_sharedValues members hKey,
      Option.mem_def.mp hFirst]
    rfl
  · intro rule hMem
    rcases exists_right_of_forall₂ hRules hMem with
      ⟨entry, -, -, hValue⟩
    exact ⟨entry.2, hValue⟩
  · intro name
    unfold Summary.applied? rule?
    rw [Directory.find?_ofEntries]
    exact lookup_eq_bind_evaluate
      (List.rel_reverse hRules) name

/-
  If the names of the rules differ, a summary has under each
  of them exactly the number of the rule.
-/
theorem Describes.applied?_name_eq
    {grouping : Grouping}
    {members : List Record}
    {summary : Summary}
    (h : grouping.Describes retry members summary)
    (hNodup : (grouping.rules.map AppliedRule.name).Nodup)
    {rule : AppliedRule}
    (hMem : rule ∈ grouping.rules) :
    ∃ x, rule.evaluate retry members = .ok x ∧
      summary.applied? rule.name = some x := by
  rcases h.evaluate_eq_ok rule hMem with ⟨x, hValue⟩
  refine ⟨x, hValue, ?_⟩
  rw [h.applied?_eq, rule?_name_eq hNodup hMem]
  simp [hValue, Except.toOption]

/- A class has a summary if and only if all rules apply. -/
theorem exists_summarize_iff
    {grouping : Grouping}
    {members : List Record} :
    (∃ summary, grouping.summarize retry members = .ok summary) ↔
      ∀ rule ∈ grouping.rules,
        ∃ x, rule.evaluate retry members = .ok x := by
  constructor
  · rintro ⟨summary, h⟩
    exact (describes_of_summarize h).evaluate_eq_ok
  · intro h
    obtain ⟨entries, hEntries⟩ :
        ∃ entries, (grouping.rules.mapM fun rule => do
          let x ← rule.evaluate retry members
          return (rule.name, x)) = .ok entries := by
      apply exists_mapM_eq_ok_iff.mpr
      intro rule hMem
      obtain ⟨x, hValue⟩ := h rule hMem
      exact ⟨(rule.name, x), by rw [hValue]; rfl⟩
    unfold summarize applyRules
    rw [hEntries]
    exact ⟨_, rfl⟩

end Grouping

------------------------------------------------------------
-- The Groups Of An Answer
------------------------------------------------------------

namespace Query

/- What all records have in common, the matched ones have. -/
theorem forall_mem_matched
    {query : Query}
    {records : List Record}
    {P : Record → Prop}
    (h : ∀ record ∈ records, P record) :
    ∀ record ∈ query.matched records, P record :=
  fun record hMem => h record (List.mem_of_mem_filter hMem)

/- The sources are the summaries of the classes. -/
theorem sources_eq_ok_iff
    {query : Query}
    {grouping : Grouping}
    {records : List Record}
    {sources : List Source}
    (hGrouping : query.grouping = some grouping) :
    query.sources retry records = .ok sources ↔
      ∃ summaries,
        List.Forall₂
          (fun members summary =>
            grouping.summarize retry members = .ok summary)
          (classes grouping.keys (query.matched records))
          summaries ∧
        sources = summaries.map Source.summary := by
  unfold Query.sources
  rw [hGrouping]
  dsimp only
  simp only [← mapM_eq_ok_iff]
  change _ ↔ ∃ summaries,
    grouping.summaries retry (query.matched records) =
      .ok summaries ∧ _
  cases grouping.summaries retry (query.matched records) with
  | error failure => simp
  | ok summaries => simp [eq_comm]

/-
  The records that a query puts in classes are partitioned by
  the values of its keys.  Each class has one summary, in the
  order of the classes, that describes it; and a query with a
  grouping fails exactly if a rule fails for a class.
-/
theorem sources_partition
    (retry : Decimal.Conversion)
    {query : Query}
    {grouping : Grouping}
    {records : List Record}
    (hGrouping : query.grouping = some grouping)
    (hNumbers : ∀ record ∈ records, record.WithoutNan) :
    let groups :=
      classes grouping.keys (query.matched records)
    IsPartition grouping.keys (query.matched records) groups ∧
    (∀ sources, query.sources retry records = .ok sources →
      ∃ summaries,
        List.Forall₂ (grouping.Describes retry) groups summaries ∧
        sources = summaries.map Source.summary) ∧
    ((∃ sources, query.sources retry records = .ok sources) ↔
      ∀ members ∈ groups, ∀ rule ∈ grouping.rules,
        ∃ x, rule.evaluate retry members = .ok x) := by
  intro groups
  refine ⟨?_, ?_, ?_⟩
  · apply classes_isPartition
    intro record hMem
    exact hNumbers record (List.mem_of_mem_filter hMem)
  · intro sources h
    rcases (sources_eq_ok_iff hGrouping).mp h with
      ⟨summaries, hSummaries, hEq⟩
    refine ⟨summaries, ?_, hEq⟩
    exact hSummaries.imp
      fun _ _ => Grouping.describes_of_summarize
  · rw [← forall₂_congr fun _ _ =>
      Grouping.exists_summarize_iff, ← exists_mapM_eq_ok_iff]
    simp only [sources_eq_ok_iff hGrouping, mapM_eq_ok_iff]
    constructor
    · rintro ⟨_, summaries, hSummaries, -⟩
      exact ⟨summaries, hSummaries⟩
    · rintro ⟨summaries, hSummaries⟩
      exact ⟨_, summaries, hSummaries, rfl⟩

/- Both zeros are in one group, and a lack is in another. -/
theorem sources_partition_zeros :
    let key : Key := ⟨"ubc", .avg⟩
    let grouping : Grouping := ⟨[key], [⟨"n", .count, key⟩]⟩
    let query : Query :=
      ⟨⟨.always, ⟨[.stored key], none⟩, some grouping⟩, "ubc"⟩
    let records : List Record :=
      [⟨[("avg", .number Binary64.zero)]⟩, ⟨[]⟩,
        ⟨[("avg", .number Binary64.zero.negate)]⟩]
    (∀ record ∈ records, record.WithoutNan) ∧
    IsPartition [key] records
      [[⟨[("avg", .number Binary64.zero)]⟩,
          ⟨[("avg", .number Binary64.zero.negate)]⟩],
        [⟨[]⟩]] ∧
    ∃ sources,
      query.sources Decimal.noRetry records = .ok sources := by
  intro key grouping query records
  have hNumbers : ∀ record ∈ records, record.WithoutNan := by
    decide
  have hGrouping : query.grouping = some grouping := rfl
  have h := sources_partition Decimal.noRetry hGrouping hNumbers
  have hMatched : query.matched records = records := by decide
  have hClasses : classes grouping.keys records =
      [[⟨[("avg", .number Binary64.zero)]⟩,
          ⟨[("avg", .number Binary64.zero.negate)]⟩],
        [⟨[]⟩]] := by
    decide
  rw [hMatched, hClasses] at h
  refine ⟨hNumbers, h.1, h.2.2.mpr ?_⟩
  intro members _ rule hRule
  rw [List.mem_singleton.mp hRule]
  exact ⟨_, rfl⟩

end Query

end Registrar
