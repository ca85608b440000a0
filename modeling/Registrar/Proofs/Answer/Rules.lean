import Registrar.Answer.Classes
import Registrar.Proofs.Data.Records
import Registrar.Proofs.Permutations

/-
  This file proves what the rules of a grouping compute for the
  members of a class.

  A maximum, a minimum and a count do not depend on the order of
  the members, except that of two zeros either can be taken.  A
  sum does, since it is rounded on the way.

  Main statements:
    * `AppliedRule.numbers_eq_ok_iff`
    * `AppliedRule.mem_of_extreme_eq_ok`
    * `AppliedRule.rank_of_extreme_eq_ok`
    * `AppliedRule.not_isNan_evaluate`
    * `AppliedRule.evaluate_of_perm`
-/

------------------------------------------------------------
-- Numbers Of Members
------------------------------------------------------------

namespace Registrar

variable {retry : Decimal.Conversion}

namespace AppliedRule

/- A record has a number if its field holds one. -/
theorem numberOf_eq_ok_iff
    {rule : AppliedRule}
    {record : Record}
    {x : Binary64} :
    rule.numberOf record = .ok x ↔
      record.get? rule.key.field = some (.number x) := by
  unfold numberOf
  split <;> simp_all

theorem numbers_eq_mapM
    (rule : AppliedRule)
    (members : List Record) :
    rule.numbers members = members.mapM rule.numberOf := by
  induction members with
  | nil => rfl
  | cons first rest ih => rw [numbers, List.mapM_cons, ih]

/- All members have numbers if all fields hold them. -/
theorem numbers_eq_ok_iff
    {rule : AppliedRule}
    {members : List Record}
    {xs : List Binary64} :
    rule.numbers members = .ok xs ↔
      List.Forall₂
        (fun record x =>
          record.get? rule.key.field = some (.number x))
        members xs := by
  rw [numbers_eq_mapM, mapM_eq_ok_iff]
  simp only [numberOf_eq_ok_iff]

/- Finite records have finite numbers. -/
theorem isFinite_of_numbers_eq_ok
    {rule : AppliedRule}
    {members : List Record}
    {xs : List Binary64}
    (hFinite : ∀ record ∈ members, record.IsFinite)
    (h : rule.numbers members = .ok xs) :
    ∀ x ∈ xs, x.IsFinite := by
  intro x hMem
  rcases exists_left_of_forall₂ (numbers_eq_ok_iff.mp h) hMem with
    ⟨record, hRecord, hValue⟩
  exact hFinite record hRecord _
    (Record.mem_values_of_get? hValue)

------------------------------------------------------------
-- Extremes
------------------------------------------------------------

/- The larger of two numbers is one of them. -/
theorem larger_eq_or_eq (x y : Binary64) :
    Binary64.larger x y = x ∨ Binary64.larger x y = y := by
  unfold Binary64.larger
  split
  · exact .inr rfl
  · exact .inl rfl
  · split
    · exact .inl rfl
    · exact .inr rfl

/- The smaller of two numbers is one of them. -/
theorem smaller_eq_or_eq (x y : Binary64) :
    Binary64.smaller x y = x ∨ Binary64.smaller x y = y := by
  unfold Binary64.smaller
  split
  · exact .inr rfl
  · exact .inl rfl
  · split
    · exact .inl rfl
    · exact .inr rfl

/- The extreme of numbers is one of them. -/
theorem mem_of_extreme_eq_ok
    {rule : AppliedRule}
    {pick : Binary64 → Binary64 → Binary64}
    {xs : List Binary64}
    {x : Binary64}
    (hPick : ∀ y z, pick y z = y ∨ pick y z = z)
    (h : rule.extreme pick xs = .ok x) :
    x ∈ xs := by
  have hRun :
      ∀ (rest : List Binary64) (first : Binary64),
        rest.foldl pick first ∈ first :: rest := by
    intro rest
    induction rest with
    | nil => exact fun first => List.mem_singleton_self first
    | cons next rest ih =>
        intro first
        rcases List.mem_cons.mp (ih (pick first next)) with
          hPicked | hRest
        · rw [List.foldl_cons, hPicked]
          rcases hPick first next with hFirst | hNext
          · rw [hFirst]
            exact List.mem_cons_self
          · rw [hNext]
            exact List.mem_cons_of_mem _ List.mem_cons_self
        · exact List.mem_cons_of_mem _
            (List.mem_cons_of_mem _ hRest)
  cases xs with
  | nil => cases h
  | cons first rest =>
      cases h
      exact hRun rest first

/- The larger of two numbers is in the larger of their places. -/
theorem rank_larger (x y : Binary64) :
    (Binary64.larger x y).rank =
      Option.merge max x.rank y.rank := by
  unfold Binary64.larger
  cases hx : x.rank with
  | none => simp
  | some a =>
      cases hy : y.rank with
      | none => simp [hx]
      | some b =>
          dsimp only [Option.merge_some_some]
          split
          · next hLess =>
              rw [hx, Int.max_eq_left (Int.le_of_lt hLess)]
          · next hNot =>
              rw [hy, Int.max_eq_right (Int.not_lt.mp hNot)]

/- The smaller of two numbers is in the smaller of their places. -/
theorem rank_smaller (x y : Binary64) :
    (Binary64.smaller x y).rank =
      Option.merge min x.rank y.rank := by
  unfold Binary64.smaller
  cases hx : x.rank with
  | none => simp
  | some a =>
      cases hy : y.rank with
      | none => simp [hx]
      | some b =>
          dsimp only [Option.merge_some_some]
          split
          · next hLess =>
              rw [hx, Int.min_eq_left (Int.le_of_lt hLess)]
          · next hNot =>
              rw [hy, Int.min_eq_right (Int.not_lt.mp hNot)]

/- The extreme of numbers is in the extreme of their places. -/
theorem rank_of_extreme_eq_ok
    {rule : AppliedRule}
    {pick : Binary64 → Binary64 → Binary64}
    {op : Int → Int → Int}
    {xs : List Binary64}
    {x : Binary64}
    (hPick : ∀ y z,
      (pick y z).rank = Option.merge op y.rank z.rank)
    (h : rule.extreme pick xs = .ok x) :
    x.rank =
      (xs.map Binary64.rank).foldl (Option.merge op) none := by
  cases xs with
  | nil => cases h
  | cons first rest =>
      cases h
      rw [List.map_cons, List.foldl_cons, List.foldl_map,
        Option.merge_none_left]
      exact (List.foldl_hom Binary64.rank
        fun y z => (hPick y z).symm).symm

------------------------------------------------------------
-- Computed Values
------------------------------------------------------------

/-
  A maximum, a minimum and a count are numbers if all numbers of
  the members are, which may be infinite.
-/
theorem not_isNan_evaluate_of_withoutNan
    {rule : AppliedRule}
    {members : List Record}
    {x : Binary64}
    (hAggregate :
      rule.aggregate ∈ [Aggregate.max, .min, .count])
    (hNumbers : ∀ record ∈ members, record.WithoutNan)
    (h : rule.evaluate retry members = .ok x) :
    ¬ x.IsNan := by
  have hEach : ∀ {xs : List Binary64},
      rule.numbers members = .ok xs → ∀ y ∈ xs, ¬ y.IsNan := by
    intro xs hXs y hMem
    rcases exists_left_of_forall₂ (numbers_eq_ok_iff.mp hXs)
        hMem with
      ⟨record, hRecord, hValue⟩
    exact (hNumbers record hRecord).not_isNan hValue
  unfold evaluate at h
  split at h
  · cases h
  · split at h
    · rw [← Except.ok.inj h]
      exact Binary64.not_isNan_ofNat _
    · rcases bind_eq_ok_iff.mp h with ⟨xs, hXs, hExtreme⟩
      exact hEach hXs x
        (mem_of_extreme_eq_ok larger_eq_or_eq hExtreme)
    · rcases bind_eq_ok_iff.mp h with ⟨xs, hXs, hExtreme⟩
      exact hEach hXs x
        (mem_of_extreme_eq_ok smaller_eq_or_eq hExtreme)
    · next hSum => simp [hSum] at hAggregate
    · next hAvg => simp [hAvg] at hAggregate

/-
  What a rule computes for finite records is a number.  The
  members of a class are fewer than words can count.
-/
theorem not_isNan_evaluate
    {rule : AppliedRule}
    {members : List Record}
    {x : Binary64}
    (hFinite : ∀ record ∈ members, record.IsFinite)
    (hPos : 0 < members.length)
    (hCount : members.length < twoTo 64)
    (h : rule.evaluate retry members = .ok x) :
    ¬ x.IsNan := by
  by_cases hAggregate :
      rule.aggregate ∈ [Aggregate.max, .min, .count]
  · exact not_isNan_evaluate_of_withoutNan hAggregate
      (fun record hMem => (hFinite record hMem).withoutNan) h
  have hTotal : ∀ {xs : List Binary64},
      rule.numbers members = .ok xs →
        ¬ (Total.ofList retry xs).approximate.IsNan := fun hXs =>
    Total.not_isNan_approximate_ofList
      (isFinite_of_numbers_eq_ok hFinite hXs)
  unfold evaluate at h
  split at h
  · cases h
  · split at h
    · next hCount => simp [hCount] at hAggregate
    · next hMax => simp [hMax] at hAggregate
    · next hMin => simp [hMin] at hAggregate
    · rcases bind_eq_ok_iff.mp h with ⟨xs, hXs, hSum⟩
      rw [← Except.ok.inj hSum]
      exact Total.not_isNan_rounded (hTotal hXs)
    · rcases bind_eq_ok_iff.mp h with ⟨xs, hXs, hMean⟩
      rw [← Except.ok.inj hMean]
      apply Total.not_isNan_rounded
      exact Total.not_isNan_approximate_divideBy (hTotal hXs) hPos
        hCount

------------------------------------------------------------
-- Members In Another Order
------------------------------------------------------------

section Perm

variable {rule : AppliedRule} {members others : List Record}

/- Members in another order have the same numbers in another. -/
theorem numbers_of_perm
    {xs : List Binary64}
    (hPerm : members.Perm others)
    (h : rule.numbers members = .ok xs) :
    ∃ ys, rule.numbers others = .ok ys ∧ xs.Perm ys := by
  rcases List.perm_comp_forall₂ hPerm.symm
      (numbers_eq_ok_iff.mp h) with
    ⟨ys, hYs, hBack⟩
  exact ⟨ys, numbers_eq_ok_iff.mpr hYs, hBack.symm⟩

/- Their extremes are in one place. -/
theorem extreme_of_perm
    {pick : Binary64 → Binary64 → Binary64}
    {op : Int → Int → Int}
    [Std.Commutative op] [Std.Associative op]
    {xs ys : List Binary64}
    {x : Binary64}
    (hPick : ∀ y z,
      (pick y z).rank = Option.merge op y.rank z.rank)
    (hPerm : xs.Perm ys)
    (h : rule.extreme pick xs = .ok x) :
    ∃ y, rule.extreme pick ys = .ok y ∧ x.rank = y.rank := by
  obtain ⟨y, hY⟩ : ∃ y, rule.extreme pick ys = .ok y := by
    cases ys with
    | nil =>
        rw [hPerm.eq_nil] at h
        cases h
    | cons first rest => exact ⟨_, rfl⟩
  refine ⟨y, hY, ?_⟩
  rw [rank_of_extreme_eq_ok hPick h,
    rank_of_extreme_eq_ok hPick hY]
  exact (hPerm.map Binary64.rank).foldl_op_eq

/- They have as many different values. -/
theorem countValues_of_perm
    (hPerm : members.Perm others) :
    rule.countValues members = rule.countValues others :=
  (eraseDups_perm (hPerm.map _)).length_eq

/-
  A maximum, a minimum and a count are computed from the members
  in any order, and are in one place.
-/
theorem evaluate_of_perm
    {x : Binary64}
    (hAggregate :
      rule.aggregate ∈ [Aggregate.max, .min, .count])
    (hPerm : members.Perm others)
    (h : rule.evaluate retry members = .ok x) :
    ∃ y, rule.evaluate retry others = .ok y ∧ x.rank = y.rank := by
  unfold evaluate at h ⊢
  split at h
  · cases h
  · next hNumeric =>
      rw [if_neg hNumeric]
      split at h
      · rw [← Except.ok.inj h, countValues_of_perm hPerm]
        exact ⟨_, rfl, rfl⟩
      · rcases bind_eq_ok_iff.mp h with ⟨xs, hXs, hExtreme⟩
        rcases numbers_of_perm hPerm hXs with ⟨ys, hYs, hNumbers⟩
        rw [hYs]
        exact extreme_of_perm rank_larger hNumbers hExtreme
      · rcases bind_eq_ok_iff.mp h with ⟨xs, hXs, hExtreme⟩
        rcases numbers_of_perm hPerm hXs with ⟨ys, hYs, hNumbers⟩
        rw [hYs]
        exact extreme_of_perm rank_smaller hNumbers hExtreme
      · next hSum => simp [hSum] at hAggregate
      · next hAvg => simp [hAvg] at hAggregate

end Perm

end AppliedRule

end Registrar
