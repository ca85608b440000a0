import Mathlib.Order.Bounds.Basic
import Mathlib.Order.MinMax
import Registrar.Proofs.Answer.Rules
import Registrar.Proofs.Numeric.Bits

/-
  This file proves that a maximum is in the greatest place of
  the members' numbers, and a minimum in the least.  What is not
  a number has no place, and is set aside.

  Both are one statement on linear orders, read from either end.

  Key definitions include:
    * `Binary64.IsLargestOf`
    * `Binary64.IsSmallestOf`
    * `AppliedRule.placesOf`

  Main statements:
    * `isGreatest_of_foldl_merge_max`
    * `isGreatest_of_parts`
    * `AppliedRule.isGreatest_of_evaluate`
    * `AppliedRule.isLeast_of_evaluate`
-/

------------------------------------------------------------
-- The Greatest Of Several
------------------------------------------------------------

namespace Registrar

variable {retry : Decimal.Conversion}

section LinearOrder

variable {α β : Type}

/- Nothing comes out only if nothing was put in. -/
theorem foldl_merge_eq_none_iff
    {op : α → α → α}
    {xs : List (Option α)} :
    xs.foldl (Option.merge op) none = none ↔
      ∀ x ∈ xs, x = none := by
  induction xs using List.reverseRecOn with
  | nil => simp
  | append_singleton xs x ih =>
      rw [List.foldl_append, List.forall_mem_append, ← ih]
      cases xs.foldl (Option.merge op) none <;>
        cases x <;> simp

variable [LinearOrder α]

/- The larger of each two in turn is the greatest of all. -/
theorem isGreatest_of_foldl_merge_max
    {xs : List (Option α)}
    {a : α}
    (h : xs.foldl (Option.merge max) none = some a) :
    IsGreatest {b | some b ∈ xs} a := by
  induction xs using List.reverseRecOn generalizing a with
  | nil => cases h
  | append_singleton xs x ih =>
      rw [List.foldl_append, List.foldl_cons,
        List.foldl_nil] at h
      cases hBefore : xs.foldl (Option.merge max) none with
      | none =>
          have hNone := foldl_merge_eq_none_iff.mp hBefore
          rw [hBefore, Option.merge_none_left] at h
          subst h
          refine ⟨by simp, ?_⟩
          intro b hMem
          rcases List.mem_append.mp hMem with hOld | hLast
          · cases hNone _ hOld
          · simp at hLast
            exact le_of_eq hLast
      | some c =>
          have hGreatest := ih hBefore
          rw [hBefore] at h
          cases x with
          | none =>
              rw [Option.merge_none_right] at h
              cases h
              simpa using hGreatest
          | some d =>
              rw [Option.merge_some_some] at h
              cases h
              refine ⟨?_, ?_⟩
              · rcases max_choice c d with hEq | hEq
                · rw [hEq]
                  exact List.mem_append_left _ hGreatest.1
                · simp [hEq]
              · intro b hMem
                rcases List.mem_append.mp hMem with hOld | hLast
                · exact le_max_of_le_left (hGreatest.2 hOld)
                · simp at hLast
                  exact le_max_of_le_right (le_of_eq hLast)

/- The smaller of each two in turn is the least of all. -/
theorem isLeast_of_foldl_merge_min
    {xs : List (Option α)}
    {a : α}
    (h : xs.foldl (Option.merge min) none = some a) :
    IsLeast {b | some b ∈ xs} a :=
  isGreatest_of_foldl_merge_max (α := αᵒᵈ) h

/- The greatest of all is the greatest of those of the parts. -/
theorem isGreatest_of_parts
    {S : β → Set α}
    {whole : Set α}
    {parts : List β}
    {tops : List α}
    {a : α}
    (hWhole : ∀ b, b ∈ whole ↔ ∃ part ∈ parts, b ∈ S part)
    (hTop : IsGreatest whole a)
    (h : List.Forall₂ (fun part b => IsGreatest (S part) b)
      parts tops) :
    IsGreatest {b | b ∈ tops} a := by
  have hBelow : ∀ b ∈ tops, b ≤ a := by
    intro b hMem
    rcases exists_left_of_forall₂ h hMem with
      ⟨part, hPart, hGreatest⟩
    exact hTop.2 ((hWhole b).mpr ⟨part, hPart, hGreatest.1⟩)
  refine ⟨?_, hBelow⟩
  rcases (hWhole a).mp hTop.1 with ⟨part, hPart, hMem⟩
  rcases exists_right_of_forall₂ h hPart with
    ⟨b, hB, hGreatest⟩
  rw [le_antisymm (hGreatest.2 hMem) (hBelow b hB)]
  exact hB

/- The least of all is the least of those of the parts. -/
theorem isLeast_of_parts
    {S : β → Set α}
    {whole : Set α}
    {parts : List β}
    {tops : List α}
    {a : α}
    (hWhole : ∀ b, b ∈ whole ↔ ∃ part ∈ parts, b ∈ S part)
    (hTop : IsLeast whole a)
    (h : List.Forall₂ (fun part b => IsLeast (S part) b)
      parts tops) :
    IsLeast {b | b ∈ tops} a :=
  isGreatest_of_parts (α := αᵒᵈ) hWhole hTop h

end LinearOrder

------------------------------------------------------------
-- Largest And Smallest Numbers
------------------------------------------------------------

namespace Binary64

/- A number is below another one if its place is. -/
theorem isBelow_iff_exists_rank
    {x y : Binary64} :
    x.isBelow y = true ↔
      ∃ a b, x.rank = some a ∧ y.rank = some b ∧ a < b := by
  unfold isBelow compare?
  cases x.rank <;> cases y.rank <;>
    simp [Int.compare_eq_lt]

/- Numerically one of some numbers, and below none of them. -/
def IsLargestOf
    (ys : List Binary64)
    (x : Binary64) : Prop :=
  (∃ y ∈ ys, x.isSame y = true) ∧
    ∀ y ∈ ys, x.isBelow y = false

/- Numerically one of some numbers, and none is below it. -/
def IsSmallestOf
    (ys : List Binary64)
    (x : Binary64) : Prop :=
  (∃ y ∈ ys, x.isSame y = true) ∧
    ∀ y ∈ ys, y.isBelow x = false

variable {ys : List Binary64} {x : Binary64}
  {places : List Int} {a : Int}

/- The largest number is in the greatest place. -/
theorem isLargestOf_of_isGreatest
    (hX : x.rank = some a)
    (hYs : List.Forall₂ (fun y b => y.rank = some b) ys places)
    (h : IsGreatest {b | b ∈ places} a) :
    x.IsLargestOf ys := by
  refine ⟨?_, ?_⟩
  · rcases exists_left_of_forall₂ hYs h.1 with ⟨y, hMem, hY⟩
    exact ⟨y, hMem, isSame_iff_exists_rank.mpr ⟨a, hX, hY⟩⟩
  · intro y hMem
    rcases exists_right_of_forall₂ hYs hMem with ⟨b, hB, hY⟩
    have hLe : b ≤ a := h.2 hB
    rw [← Bool.not_eq_true, isBelow_iff_exists_rank]
    simp [hX, hY, hLe]

/- The smallest number is in the least place. -/
theorem isSmallestOf_of_isLeast
    (hX : x.rank = some a)
    (hYs : List.Forall₂ (fun y b => y.rank = some b) ys places)
    (h : IsLeast {b | b ∈ places} a) :
    x.IsSmallestOf ys := by
  refine ⟨?_, ?_⟩
  · rcases exists_left_of_forall₂ hYs h.1 with ⟨y, hMem, hY⟩
    exact ⟨y, hMem, isSame_iff_exists_rank.mpr ⟨a, hX, hY⟩⟩
  · intro y hMem
    rcases exists_right_of_forall₂ hYs hMem with ⟨b, hB, hY⟩
    have hLe : a ≤ b := h.2 hB
    rw [← Bool.not_eq_true, isBelow_iff_exists_rank]
    simp [hX, hY, hLe]

end Binary64

------------------------------------------------------------
-- Maxima And Minima Of Members
------------------------------------------------------------

namespace AppliedRule

/- The places of the numbers that members have for a rule. -/
def placesOf
    (rule : AppliedRule)
    (members : List Record) : Set Int :=
  {place | ∃ record ∈ members, ∃ x,
    record.get? rule.key.field = some (.number x) ∧
      x.rank = some place}

variable
  {rule : AppliedRule} {members : List Record}
  {x : Binary64} {a : Int}

private theorem placesOf_eq_of_numbers
    {xs : List Binary64}
    (h : rule.numbers members = .ok xs) :
    rule.placesOf members =
      {place | some place ∈ xs.map Binary64.rank} := by
  have hNumbers := numbers_eq_ok_iff.mp h
  ext place
  rw [Set.mem_ofPred_eq, List.mem_map]
  constructor
  · rintro ⟨record, hMem, y, hGet, hPlace⟩
    rcases exists_right_of_forall₂ hNumbers hMem with
      ⟨z, hZ, hSame⟩
    rw [hGet] at hSame
    cases hSame
    exact ⟨y, hZ, hPlace⟩
  · rintro ⟨y, hMem, hPlace⟩
    rcases exists_left_of_forall₂ hNumbers hMem with
      ⟨record, hRecord, hGet⟩
    exact ⟨record, hRecord, y, hGet, hPlace⟩

/- A maximum is in the greatest of the places. -/
theorem isGreatest_of_evaluate
    (hAggregate : rule.aggregate = .max)
    (h : rule.evaluate retry members = .ok x)
    (hPlace : x.rank = some a) :
    IsGreatest (rule.placesOf members) a := by
  unfold evaluate at h
  split at h
  · cases h
  · rw [hAggregate] at h
    rcases bind_eq_ok_iff.mp h with ⟨xs, hXs, hExtreme⟩
    rw [placesOf_eq_of_numbers hXs]
    apply isGreatest_of_foldl_merge_max
    rw [← rank_of_extreme_eq_ok rank_larger hExtreme, hPlace]

/- A minimum is in the least of the places. -/
theorem isLeast_of_evaluate
    (hAggregate : rule.aggregate = .min)
    (h : rule.evaluate retry members = .ok x)
    (hPlace : x.rank = some a) :
    IsLeast (rule.placesOf members) a := by
  unfold evaluate at h
  split at h
  · cases h
  · rw [hAggregate] at h
    rcases bind_eq_ok_iff.mp h with ⟨xs, hXs, hExtreme⟩
    rw [placesOf_eq_of_numbers hXs]
    apply isLeast_of_foldl_merge_min
    rw [← rank_of_extreme_eq_ok rank_smaller hExtreme, hPlace]

/- The places of several parts are those of the whole. -/
theorem mem_placesOf_iff_of_perm
    {parts : List (List Record)}
    (hPerm : parts.flatten.Perm members)
    (place : Int) :
    place ∈ rule.placesOf members ↔
      ∃ part ∈ parts, place ∈ rule.placesOf part := by
  unfold placesOf
  simp only [Set.mem_ofPred_eq, ← hPerm.mem_iff,
    List.mem_flatten]
  constructor
  · rintro ⟨record, ⟨part, hPart, hMem⟩, hPlace⟩
    exact ⟨part, hPart, record, hMem, hPlace⟩
  · rintro ⟨part, hPart, record, hMem, hPlace⟩
    exact ⟨record, ⟨part, hPart, hMem⟩, hPlace⟩

end AppliedRule

end Registrar
