import Registrar.Proofs.Answer.Extremes
import Registrar.Proofs.Answer.Failures
import Registrar.Proofs.Answer.Restriction

/-
  This file proves that a grouping by one more key splits the
  classes, and that what is computed for a class is found again
  in its parts: there are as many of them as the key has
  different values, and an extreme of the class is the extreme
  of theirs.

  Key definitions include:
    * `partsOf`

  Main statements:
    * `partsOf_classes`
    * `length_classes_append_singleton`
    * `AppliedRule.exists_isLargestOf_parts`
    * `classes_rollUp`
-/

------------------------------------------------------------
-- Parts Of Classes
------------------------------------------------------------

namespace Registrar

variable {retry : Decimal.Conversion}

/- The groups of which all members belong to a class. -/
def partsOf
    (groups : List (List Record))
    (members : List Record) : List (List Record) :=
  groups.filter fun group =>
    group.all fun record => record ∈ members

section Parts

variable {keys more : List Key} {records members : List Record}

/- Records share more keys if they share these and the others. -/
theorem identityIn_append_eq_iff
    {r s : Record} :
    identityIn (keys ++ more) r = identityIn (keys ++ more) s ↔
      identityIn keys r = identityIn keys s ∧
        identityIn more r = identityIn more s := by
  unfold identityIn
  simp only [List.map_inj_left, List.forall_mem_append]

/- A group by more keys lies in the class of each member. -/
theorem subset_iff_mem_of_mem_classes
    {group : List Record}
    {r : Record}
    (hGroup : group ∈ classes (keys ++ more) records)
    (hMem : r ∈ group)
    (hMembers : members ∈ classes keys records) :
    group ⊆ members ↔ r ∈ members := by
  refine ⟨fun h => h hMem, ?_⟩
  intro hr s hs
  rcases mem_classes_iff.mp hMembers with ⟨first, -, rfl⟩
  have hRecords := (sublist_of_mem_classes hGroup).subset hs
  have hSame := (identityIn_append_eq_iff.mp
    (identityIn_eq_of_mem_classes hGroup hs hMem)).1
  exact mem_sharing_iff.mpr
    ⟨hRecords, hSame.trans (mem_sharing_iff.mp hr).2⟩

/- A group by more keys lies in exactly one class. -/
theorem existsUnique_class_of_subset
    {group : List Record}
    (hGroup : group ∈ classes (keys ++ more) records) :
    ∃! number : Nat, ∃ members,
      (classes keys records)[number]? = some members ∧
        group ⊆ members := by
  rcases List.exists_mem_of_ne_nil group
      (ne_nil_of_mem_classes hGroup) with ⟨r, hMem⟩
  have hRecord := (sublist_of_mem_classes hGroup).subset hMem
  have hIff : ∀ number : Nat,
      (∃ members, (classes keys records)[number]? =
          some members ∧ group ⊆ members) ↔
        ∃ members, (classes keys records)[number]? =
          some members ∧ r ∈ members := by
    intro number
    apply exists_congr
    intro members
    apply and_congr_right
    intro hMembers
    exact subset_iff_mem_of_mem_classes hGroup hMem
      (List.mem_of_getElem? hMembers)
  simp only [hIff]
  exact existsUnique_class hRecord

/- The parts of a class are the classes of its members. -/
theorem partsOf_classes
    (hMembers : members ∈ classes keys records) :
    partsOf (classes (keys ++ more) records) members =
      classes (keys ++ more) members := by
  rcases mem_classes_iff.mp hMembers with ⟨first, -, rfl⟩
  unfold partsOf
  conv_rhs => unfold sharing
  rw [classes_filter fun r _ s _ hEq => by
    rw [(identityIn_append_eq_iff.mp hEq).1]]
  apply List.filter_congr
  intro group hGroup
  have hSubset := (sublist_of_mem_classes hGroup).subset
  rw [Bool.eq_iff_iff, List.all_eq_true, List.all_eq_true]
  apply forall₂_congr
  intro r hr
  simp [mem_sharing_iff, hSubset hr]

/-
  If records share some keys, there are as many classes by one
  more key as it has different values.
-/
theorem length_classes_append_singleton
    {shared : List (Option Identity)}
    {key : Key}
    (hShared : ∀ r ∈ members, identityIn keys r = shared) :
    (classes (keys ++ [key]) members).length =
      (members.map fun record =>
        (record.get? key.field).map
          Value.identity).eraseDups.length := by
  have hMap : members.map (identityIn (keys ++ [key])) =
      (members.map fun record =>
        (record.get? key.field).map Value.identity).map
          fun last => shared ++ [last] := by
    rw [List.map_map]
    apply List.map_congr_left
    intro r hr
    rw [Function.comp_apply, ← hShared r hr]
    exact List.map_append
  rw [classes_eq, List.length_map, identitiesOf, hMap,
    eraseDups_map_of_injective, List.length_map]
  intro a b hEq
  simpa using hEq

end Parts

------------------------------------------------------------
-- Extremes Of Parts
------------------------------------------------------------

namespace AppliedRule

variable
  {rule : AppliedRule} {members : List Record}
  {parts : List (List Record)}

/- A maximum or a minimum of numbers indeed has a place. -/
private theorem exists_rank_of_evaluate
    {x : Binary64}
    (hAggregate : rule.aggregate ∈ [Aggregate.max, .min])
    (hNumbers : ∀ record ∈ members, record.WithoutNan)
    (h : rule.evaluate retry members = .ok x) :
    ∃ place, x.rank = some place := by
  have hThree :
      rule.aggregate ∈ [Aggregate.max, .min, .count] :=
    List.mem_append_left [Aggregate.count] hAggregate
  exact Binary64.exists_rank_iff.mpr
    (not_isNan_evaluate_of_withoutNan hThree hNumbers h)

/- What is computed for a class is computed for its parts. -/
private theorem exists_evaluate_parts
    {x : Binary64}
    (hPerm : parts.flatten.Perm members)
    (hNe : ∀ part ∈ parts, part ≠ [])
    (h : rule.evaluate retry members = .ok x) :
    ∃ ys, List.Forall₂
      (fun part y => rule.evaluate retry part = .ok y) parts ys := by
  apply exists_forall₂_iff.mpr
  intro part hPart
  have hSubset : part ⊆ members := fun record hMem =>
    hPerm.mem_iff.mp (List.mem_flatten_of_mem hPart hMem)
  have hSome : members ≠ [] := fun hNil =>
    hNe part hPart (List.subset_nil.mp (hNil ▸ hSubset))
  apply (exists_evaluate_iff (hNe part hPart)).mpr
  exact fun hFails =>
    (exists_evaluate_iff hSome).mp ⟨x, h⟩ (hFails.mono hSubset)

/-
  If what a rule computes is an extreme of the members' places,
  the class and each of its parts have theirs.
-/
private theorem exists_extremes_of_parts
    {Extreme : Set Int → Int → Prop}
    {x : Binary64}
    (hAggregate : rule.aggregate ∈ [Aggregate.max, .min])
    (hExtreme : ∀ {members x a}, rule.evaluate retry members = .ok x →
      x.rank = some a → Extreme (rule.placesOf members) a)
    (hNumbers : ∀ record ∈ members, record.WithoutNan)
    (hPerm : parts.flatten.Perm members)
    (hNe : ∀ part ∈ parts, part ≠ [])
    (h : rule.evaluate retry members = .ok x) :
    ∃ ys places a,
      List.Forall₂ (fun part y => rule.evaluate retry part = .ok y)
        parts ys ∧
      List.Forall₂ (fun y b => Binary64.rank y = some b)
        ys places ∧
      List.Forall₂ (fun part b => Extreme (rule.placesOf part) b)
        parts places ∧
      x.rank = some a ∧ Extreme (rule.placesOf members) a := by
  rcases exists_evaluate_parts hPerm hNe h with ⟨ys, hYs⟩
  have hRanks : ∀ y ∈ ys, ∃ b, y.rank = some b := by
    intro y hMem
    rcases exists_left_of_forall₂ hYs hMem with
      ⟨part, hPart, hY⟩
    apply exists_rank_of_evaluate hAggregate ?_ hY
    exact fun record hRecord => hNumbers record
      (hPerm.mem_iff.mp (List.mem_flatten_of_mem hPart hRecord))
  rcases exists_forall₂_iff.mpr hRanks with ⟨places, hPlaces⟩
  rcases exists_rank_of_evaluate hAggregate hNumbers h with
    ⟨a, hPlace⟩
  refine ⟨ys, places, a, hYs, hPlaces, ?_, hPlace,
    hExtreme h hPlace⟩
  apply (forall₂_comp hYs hPlaces).imp
  rintro part b ⟨y, hY, hB⟩
  exact hExtreme hY hB

/- The maximum of a class is the largest of its parts. -/
theorem exists_isLargestOf_parts
    {x : Binary64}
    (hAggregate : rule.aggregate = .max)
    (hNumbers : ∀ record ∈ members, record.WithoutNan)
    (hPerm : parts.flatten.Perm members)
    (hNe : ∀ part ∈ parts, part ≠ [])
    (h : rule.evaluate retry members = .ok x) :
    ∃ maxima,
      List.Forall₂ (fun part y => rule.evaluate retry part = .ok y)
        parts maxima ∧
      x.IsLargestOf maxima := by
  have hEither : rule.aggregate ∈ [Aggregate.max, .min] := by
    simp [hAggregate]
  rcases exists_extremes_of_parts hEither
      (isGreatest_of_evaluate hAggregate) hNumbers hPerm hNe h with
    ⟨maxima, places, a, hMaxima, hPlaces, hParts, hPlace, hTop⟩
  refine ⟨maxima, hMaxima,
    Binary64.isLargestOf_of_isGreatest hPlace hPlaces ?_⟩
  exact isGreatest_of_parts (mem_placesOf_iff_of_perm hPerm) hTop
    hParts

/- The minimum of a class is the smallest of its parts. -/
theorem exists_isSmallestOf_parts
    {x : Binary64}
    (hAggregate : rule.aggregate = .min)
    (hNumbers : ∀ record ∈ members, record.WithoutNan)
    (hPerm : parts.flatten.Perm members)
    (hNe : ∀ part ∈ parts, part ≠ [])
    (h : rule.evaluate retry members = .ok x) :
    ∃ minima,
      List.Forall₂ (fun part y => rule.evaluate retry part = .ok y)
        parts minima ∧
      x.IsSmallestOf minima := by
  have hEither : rule.aggregate ∈ [Aggregate.max, .min] := by
    simp [hAggregate]
  rcases exists_extremes_of_parts hEither
      (isLeast_of_evaluate hAggregate) hNumbers hPerm hNe h with
    ⟨minima, places, a, hMinima, hPlaces, hParts, hPlace, hTop⟩
  refine ⟨minima, hMinima,
    Binary64.isSmallestOf_of_isLeast hPlace hPlaces ?_⟩
  exact isLeast_of_parts (mem_placesOf_iff_of_perm hPerm) hTop
    hParts

end AppliedRule

------------------------------------------------------------
-- Groupings By One More Key
------------------------------------------------------------

/-
  A grouping by one more key refines a grouping: each of its
  groups lies in exactly one class, and the parts of a class are
  its members, put in groups.  A class has as many parts as the
  count of the key tells, where a lack is one value; and its
  maximum and its minimum are those of the maxima and of the
  minima of its parts.
-/
theorem classes_rollUp
    {records : List Record}
    (hNumbers : ∀ record ∈ records, record.WithoutNan)
    (condition : Condition)
    (keys : List Key)
    (key : Key)
    (retry : Decimal.Conversion) :
    let matched := records.filter fun r => condition.holds r
    let fine := classes (keys ++ [key]) matched
    (∀ group ∈ fine, ∃! number : Nat, ∃ members,
      (classes keys matched)[number]? = some members ∧
        group ⊆ members) ∧
    ∀ members ∈ classes keys matched,
      (partsOf fine members).flatten.Perm members ∧
      (∀ name,
        (AppliedRule.mk name .count key).evaluate retry members =
          .ok (Binary64.ofNat (partsOf fine members).length)) ∧
      (∀ name target x,
        (AppliedRule.mk name .max target).evaluate retry members =
            .ok x →
          ∃ maxima,
            List.Forall₂
              (fun part y =>
                (AppliedRule.mk name .max target).evaluate retry
                  part = .ok y)
              (partsOf fine members) maxima ∧
            x.IsLargestOf maxima) ∧
      ∀ name target x,
        (AppliedRule.mk name .min target).evaluate retry members =
            .ok x →
          ∃ minima,
            List.Forall₂
              (fun part y =>
                (AppliedRule.mk name .min target).evaluate retry
                  part = .ok y)
              (partsOf fine members) minima ∧
            x.IsSmallestOf minima := by
  intro matched fine
  refine ⟨fun group => existsUnique_class_of_subset, ?_⟩
  intro members hMembers
  have hParts : partsOf fine members =
      classes (keys ++ [key]) members :=
    partsOf_classes hMembers
  have hPerm : (partsOf fine members).flatten.Perm members := by
    rw [hParts]
    exact flatten_classes_perm _ members
  have hNe : ∀ part ∈ partsOf fine members, part ≠ [] :=
    fun part hPart =>
      ne_nil_of_mem_classes (List.mem_of_mem_filter hPart)
  have hOwn : ∀ record ∈ members, record.WithoutNan := by
    intro record hMem
    have hMatched := (sublist_of_mem_classes hMembers).subset hMem
    exact hNumbers record (List.mem_of_mem_filter hMatched)
  refine ⟨hPerm, ?_, ?_, ?_⟩
  · intro name
    rcases mem_classes_iff.mp hMembers with ⟨first, -, rfl⟩
    rw [hParts, length_classes_append_singleton
      fun r hr => (mem_sharing_iff.mp hr).2]
    rfl
  · intro name target x h
    exact AppliedRule.exists_isLargestOf_parts rfl hOwn hPerm hNe
      h
  · intro name target x h
    exact AppliedRule.exists_isSmallestOf_parts rfl hOwn hPerm
      hNe h

/-
  Both zeros are one mean and a lack is another, so that two
  parts are counted.  The latest of three years is the latest of
  the parts' years; a record without a year does not match.
-/
theorem classes_rollUp_zeros :
    let retry : Decimal.Conversion := Decimal.noRetry
    let dept : Key := ⟨"ubc", .dept⟩
    let avg : Key := ⟨"ubc", .avg⟩
    let year : Key := ⟨"ubc", .year⟩
    let condition : Condition :=
      .comparison .above year Binary64.zero
    let section1 : Record :=
      ⟨[("avg", .number Binary64.zero), ("dept", .text "cpsc"),
        ("year", .number (Binary64.ofNat 1))]⟩
    let section2 : Record :=
      ⟨[("avg", .number Binary64.zero.negate),
        ("dept", .text "cpsc"),
        ("year", .number (Binary64.ofNat 3))]⟩
    let section3 : Record :=
      ⟨[("dept", .text "cpsc"),
        ("year", .number (Binary64.ofNat 2))]⟩
    let records : List Record :=
      [section1, ⟨[("dept", .text "cpsc")]⟩, section2, section3]
    let matched := records.filter fun r => condition.holds r
    let members := [section1, section2, section3]
    let parts := [[section1, section2], [section3]]
    (∀ record ∈ records, record.WithoutNan) ∧
    members ∈ classes [dept] matched ∧
    partsOf (classes [dept, avg] matched) members = parts ∧
    parts.flatten.Perm members ∧
    (AppliedRule.mk "means" .count avg).evaluate retry members =
      .ok (Binary64.ofNat 2) ∧
    ∃ maxima,
      List.Forall₂
        (fun part y =>
          (AppliedRule.mk "latest" .max year).evaluate retry part =
            .ok y)
        parts maxima ∧
      (Binary64.ofNat 3).IsLargestOf maxima := by
  intro retry dept avg year condition section1 section2 section3
    records matched members parts
  have hNumbers : ∀ record ∈ records, record.WithoutNan := by
    decide +kernel
  have hMembers : members ∈ classes [dept] matched := by
    decide +kernel
  have hParts :
      partsOf (classes [dept, avg] matched) members = parts := by
    decide +kernel
  have hLatest :
      (AppliedRule.mk "latest" .max year).evaluate retry members =
        .ok (Binary64.ofNat 3) := by
    decide +kernel
  have h := (classes_rollUp hNumbers condition [dept] avg
    retry).2 members hMembers
  rw [List.singleton_append, hParts] at h
  exact ⟨hNumbers, hMembers, hParts, h.1, h.2.1 "means",
    h.2.2.1 "latest" year _ hLatest⟩

end Registrar
