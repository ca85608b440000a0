import Registrar.Collation.Order
import Registrar.Proofs.Answer.Agreement
import Registrar.Proofs.Answer.Typing

/-
  This file proves that a condition on the keys of a grouping
  can be put to whole classes: to take the records that meet it
  and then form classes is to form classes and then take those
  whose members meet it.

  The members of one class agree on the keys, and hence on each
  condition that looks at nothing else.

  Key definitions include:
    * `Query.withCondition`

  Main statements:
    * `classes_filter`
    * `Condition.holds_eq_of_agreesOn`
    * `Query.exists_summarized_of_sources`
    * `Query.sources_withCondition_all`
-/

------------------------------------------------------------
-- Classes Of Some Of The Records
------------------------------------------------------------

namespace Registrar

variable {retry : Decimal.Conversion}

/-
  If a property does not tell apart the records of one class,
  the classes of the records that have it are the classes whose
  members have it.
-/
theorem classes_filter
    {keys : List Key}
    {records : List Record}
    {p : Record → Bool}
    (h : ∀ r ∈ records, ∀ s ∈ records,
      identityIn keys r = identityIn keys s → p r = p s) :
    classes keys (records.filter p) =
      (classes keys records).filter fun members =>
        members.all p := by
  -- One member speaks for its class.
  have hAll : ∀ r ∈ records,
      (sharing keys records (identityIn keys r)).all p = p r := by
    intro r hr
    rw [Bool.eq_iff_iff, List.all_eq_true]
    constructor
    · exact fun hEach => hEach r (mem_sharing_iff.mpr ⟨hr, rfl⟩)
    · intro hr' s hs
      rcases mem_sharing_iff.mp hs with ⟨hMem, hEq⟩
      rwa [h s hMem r hr hEq]
  have hIdentities :
      identitiesOf keys (records.filter p) =
        (identitiesOf keys records).filter fun shared =>
          (sharing keys records shared).all p := by
    unfold identitiesOf
    rw [filter_eraseDups, List.filter_map]
    congr 2
    exact List.filter_congr fun r hr => (hAll r hr).symm
  rw [classes_eq, classes_eq, List.filter_map, hIdentities]
  apply List.map_congr_left
  intro shared hShared
  have hKept := List.all_eq_true.mp
    (List.mem_filter.mp hShared).2
  -- All members have the property, so that none is left out.
  unfold sharing at hKept ⊢
  rw [List.filter_filter]
  apply List.filter_congr
  intro r hr
  by_cases hEq : identityIn keys r = shared
  · simpa [hEq] using hKept r (List.mem_filter.mpr ⟨hr, by
      simpa using hEq⟩)
  · simp [hEq]

------------------------------------------------------------
-- Conditions On Keys
------------------------------------------------------------

/- Records that agree on the keys meet the same conditions. -/
theorem Condition.holds_eq_of_agreesOn
    {keys : List Key}
    {r s : Record}
    {c : Condition}
    (h : Record.AgreesOn keys r s)
    (hKeys : ∀ key ∈ c.keys, key ∈ keys) :
    holds r c = holds s c :=
  holds_eq_of_alikeIn c fun key hMem =>
    h.alikeIn (hKeys key hMem)

/- So do records with one identity. -/
theorem Condition.holds_eq_of_identityIn_eq
    {keys : List Key}
    {r s : Record}
    {c : Condition}
    (hKeys : ∀ key ∈ c.keys, key ∈ keys)
    (hr : r.WithoutNan)
    (hs : s.WithoutNan)
    (h : identityIn keys r = identityIn keys s) :
    holds r c = holds s c :=
  holds_eq_of_agreesOn ((identityIn_eq_iff hr hs).mp h) hKeys

------------------------------------------------------------
-- Queries Under Two Conditions
------------------------------------------------------------

namespace Query

/- The query under another condition. -/
def withCondition
    (query : Query)
    (condition : Condition) : Query :=
  { query with condition := condition }

/- To meet two conditions is to meet one of those that meet the
  other. -/
private theorem matched_withCondition_all
    (query : Query)
    (f g : Condition)
    (records : List Record) :
    (query.withCondition (.junction .all [f, g])).matched
        records =
      ((query.withCondition g).matched records).filter
        fun record => f.holds record := by
  unfold matched withCondition
  rw [List.filter_filter]
  apply List.filter_congr
  intro record _
  simp [Condition.holds, Condition.allHold]

/- The classes under both conditions. -/
private theorem classes_matched_withCondition_all
    {query : Query}
    {keys : List Key}
    {records : List Record}
    {f : Condition}
    (hNumbers : ∀ record ∈ records, record.WithoutNan)
    (hKeys : ∀ key ∈ f.keys, key ∈ keys)
    (g : Condition) :
    classes keys ((query.withCondition
        (.junction .all [f, g])).matched records) =
      (classes keys
        ((query.withCondition g).matched records)).filter
          fun members => members.all fun r => f.holds r := by
  rw [matched_withCondition_all]
  apply classes_filter
  intro r hr s hs hEq
  exact Condition.holds_eq_of_identityIn_eq hKeys
    (forall_mem_matched hNumbers r hr)
    (forall_mem_matched hNumbers s hs) hEq

/- Lists that are related item by item, as one of pairs. -/
private theorem exists_pairs_of_forall₂
    {α β : Type}
    {R : α → β → Prop}
    {xs : List α}
    {ys : List β}
    (h : List.Forall₂ R xs ys) :
    ∃ pairs : List (α × β), pairs.map Prod.fst = xs ∧
      pairs.map Prod.snd = ys ∧
      ∀ pair ∈ pairs, R pair.1 pair.2 := by
  rcases List.forall₂_iff_zip.mp h with ⟨hLength, hEach⟩
  refine ⟨xs.zip ys, ?_, ?_, fun _ hMem => hEach hMem⟩
  · exact List.map_fst_zip (Nat.le_of_eq hLength)
  · exact List.map_snd_zip (Nat.le_of_eq hLength.symm)

/- The pairs whose first items have a property are related. -/
private theorem forall₂_filter_fst
    {α β : Type}
    {R : α → β → Prop}
    {pairs : List (α × β)}
    (p : α → Bool)
    (h : ∀ pair ∈ pairs, R pair.1 pair.2) :
    List.Forall₂ R ((pairs.map Prod.fst).filter p)
      ((pairs.filter fun pair => p pair.1).map Prod.snd) := by
  rw [List.filter_map, List.forall₂_map_left_iff,
    List.forall₂_map_right_iff]
  apply List.forall₂_same.mpr
  exact fun pair hMem => h pair (List.mem_of_mem_filter hMem)

/-
  If a query takes some of the classes of another one, it has
  the summaries of these, unchanged and in order.
-/
theorem exists_summarized_of_sources
    {wide narrow : Query}
    {grouping : Grouping}
    {records : List Record}
    {sources : List Source}
    {p : List Record → Bool}
    (hWide : wide.grouping = some grouping)
    (hNarrow : narrow.grouping = some grouping)
    (hClasses :
      classes grouping.keys (narrow.matched records) =
        (classes grouping.keys (wide.matched records)).filter p)
    (h : wide.sources retry records = .ok sources) :
    ∃ summarized : List (List Record × Summary),
      summarized.map Prod.fst =
        classes grouping.keys (wide.matched records) ∧
      (∀ group ∈ summarized,
        grouping.summarize retry group.1 = .ok group.2) ∧
      sources = summarized.map (fun group =>
        .summary group.2) ∧
      narrow.sources retry records =
        .ok ((summarized.filter fun group => p group.1).map
          fun group => .summary group.2) := by
  rcases (sources_eq_ok_iff hWide).mp h with
    ⟨summaries, hSummaries, rfl⟩
  rcases exists_pairs_of_forall₂ hSummaries with
    ⟨summarized, hFirst, rfl, hEach⟩
  refine ⟨summarized, hFirst, hEach, List.map_map .., ?_⟩
  apply (sources_eq_ok_iff hNarrow).mpr
  refine ⟨_, ?_, (List.map_map ..).symm⟩
  rw [hClasses, ← hFirst]
  exact forall₂_filter_fst
    (R := fun members summary =>
      grouping.summarize retry members = .ok summary) p hEach

/-
  A condition on the keys of a grouping commutes with it.  All
  members of a class agree on the condition.  The classes under
  both conditions are those under the other one whose members
  meet it, in the same order.  If the query has an answer under
  the other condition, it has one under both, and each class that
  is left carries the same key values and computed numbers.
-/
theorem sources_withCondition_all
    {query : Query}
    {grouping : Grouping}
    {records : List Record}
    {f : Condition}
    (hGrouping : query.grouping = some grouping)
    (hNumbers : ∀ record ∈ records, record.WithoutNan)
    (hKeys : ∀ key ∈ f.keys, key ∈ grouping.keys)
    (g : Condition)
    (collate : TextOrder)
    (retry : Decimal.Conversion) :
    let wide := query.withCondition g
    let narrow := query.withCondition (.junction .all [f, g])
    let groups := classes grouping.keys (wide.matched records)
    (∀ members ∈ groups, ∀ r ∈ members, ∀ s ∈ members,
      f.holds r = f.holds s) ∧
    classes grouping.keys (narrow.matched records) =
      groups.filter (fun members =>
        members.all fun r => f.holds r) ∧
    (∀ sources, wide.sources retry records = .ok sources →
      ∃ summarized : List (List Record × Summary),
        summarized.map Prod.fst = groups ∧
        (∀ group ∈ summarized,
          grouping.summarize retry group.1 = .ok group.2) ∧
        sources = summarized.map (fun group =>
          .summary group.2) ∧
        narrow.sources retry records =
          .ok ((summarized.filter fun group =>
              group.1.all fun r => f.holds r).map fun group =>
            .summary group.2)) ∧
    ∀ rows, wide.answerBy collate retry records = .ok rows →
      ∃ kept, narrow.answerBy collate retry records = .ok kept := by
  intro wide narrow groups
  have hGroups : classes grouping.keys (narrow.matched records) =
      groups.filter fun members =>
        members.all fun r => f.holds r :=
    classes_matched_withCondition_all hNumbers hKeys g
  have hSources := fun sources =>
    @exists_summarized_of_sources retry wide narrow grouping
      records sources _ hGrouping hGrouping hGroups
  refine ⟨?_, hGroups, hSources, ?_⟩
  · intro members hMembers r hr s hs
    have hSubset := (sublist_of_mem_classes hMembers).subset
    exact Condition.holds_eq_of_identityIn_eq hKeys
      (forall_mem_matched hNumbers r (hSubset hr))
      (forall_mem_matched hNumbers s (hSubset hs))
      (identityIn_eq_of_mem_classes hMembers hr hs)
  · intro rows h
    apply exists_answerBy_iff.mpr
    rcases exists_answerBy_iff.mp ⟨rows, h⟩ with
      ⟨sources, hFound⟩
    rcases hSources sources hFound with ⟨_, -, -, -, hKept⟩
    exact ⟨_, hKept⟩

/-
  A mean is not above zero in two classes: that of both zeros,
  and that of records without a mean.  The class of another mean
  is left out, and one record never was in a class.
-/
theorem sources_withCondition_all_zeros :
    let retry : Decimal.Conversion := Decimal.noRetry
    let collate : TextOrder := Collation.compareTexts
    let avg : Key := ⟨"ubc", .avg⟩
    let year : Key := ⟨"ubc", .year⟩
    let query : Query :=
      ⟨⟨.always, ⟨[.stored avg, .applied "latest"], none⟩,
          some ⟨[avg], [⟨"latest", .max, year⟩]⟩⟩,
        "ubc"⟩
    let f : Condition :=
      .negation (.comparison .above avg Binary64.zero)
    let g : Condition := .comparison .above year Binary64.zero
    let mean (x : Binary64) (n : Nat) : Record :=
      ⟨[("avg", .number x), ("year", .number (Binary64.ofNat n))]⟩
    let lacking : Record :=
      ⟨[("year", .number (Binary64.ofNat 3))]⟩
    let records : List Record :=
      [mean (Binary64.ofNat 70) 1, mean Binary64.zero 2, lacking,
        mean Binary64.zero.negate 4, ⟨[]⟩]
    query.grouping = some ⟨[avg], [⟨"latest", .max, year⟩]⟩ ∧
    (∀ record ∈ records, record.WithoutNan) ∧
    (∀ key ∈ f.keys, key ∈ [avg]) ∧
    classes [avg] ((query.withCondition
        (.junction .all [f, g])).matched records) =
      [[mean Binary64.zero 2, mean Binary64.zero.negate 4],
        [lacking]] ∧
    ∃ rows,
      (query.withCondition (.junction .all [f, g])).answerBy
        collate retry records = .ok rows := by
  intro retry collate avg year query f g mean lacking records
  have hNumbers : ∀ record ∈ records, record.WithoutNan := by
    decide +kernel
  have hKeys : ∀ key ∈ f.keys, key ∈ [avg] :=
    fun _ hMem => hMem
  have hGrouping :
      query.grouping = some ⟨[avg], [⟨"latest", .max, year⟩]⟩ :=
    rfl
  obtain ⟨rows, hRows⟩ :
      ∃ rows, (query.withCondition g).answerBy collate retry
        records = .ok rows :=
    exists_eq_ok_iff.mp (by decide +kernel)
  rcases sources_withCondition_all hGrouping hNumbers hKeys g
      collate retry with
    ⟨-, hClasses, -, hAnswer⟩
  refine ⟨hGrouping, hNumbers, hKeys, ?_, hAnswer rows hRows⟩
  rw [hClasses]
  decide +kernel

end Query

end Registrar
