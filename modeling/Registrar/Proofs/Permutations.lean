import Mathlib.Data.List.Perm.Basic
import Registrar.Proofs.Sequences

/-
  This file proves what is left of the order of a list after
  each item has been worked off: two lists of the same items, in
  whatever order, lead to lists of the same results.

  The results need not be equal.  They can be paired off so that
  partners are related as the steps relate them.

  Key definitions include:
    * `PermUpTo`

  Main statements:
    * `eraseDups_perm`
    * `PermUpTo.perm_trans`
    * `PermUpTo.trans_perm`
    * `PermUpTo.filterMap`
    * `PermUpTo.mapM`
    * `PermUpTo.countP_eq`
-/

------------------------------------------------------------
-- The Same Items
------------------------------------------------------------

namespace Registrar

variable {ε α β γ δ : Type}

/- Lists of the same items have the same different items. -/
theorem eraseDups_perm
    [BEq α] [LawfulBEq α]
    {xs ys : List α}
    (h : xs.Perm ys) :
    xs.eraseDups.Perm ys.eraseDups := by
  rw [List.perm_ext_iff_of_nodup (nodup_eraseDups xs)
    (nodup_eraseDups ys)]
  intro x
  rw [List.mem_eraseDups, List.mem_eraseDups, h.mem_iff]

------------------------------------------------------------
-- Related Items
------------------------------------------------------------

/-
  The items of two lists can be paired off, in some order, so
  that the partners are related.
-/
def PermUpTo
    (R : α → β → Prop)
    (xs : List α)
    (ys : List β) : Prop :=
  ∃ zs, xs.Perm zs ∧ List.Forall₂ R zs ys

namespace PermUpTo

variable
  {R : α → β → Prop} {S : γ → δ → Prop}
  {xs : List α} {ys : List β}

/- The order on the left does not matter. -/
theorem perm_trans
    {others : List α}
    (hPerm : others.Perm xs)
    (h : PermUpTo R xs ys) :
    PermUpTo R others ys := by
  rcases h with ⟨zs, hItems, hPairs⟩
  exact ⟨zs, hPerm.trans hItems, hPairs⟩

/- Nor does the order on the right. -/
theorem trans_perm
    {others : List β}
    (h : PermUpTo R xs ys)
    (hPerm : ys.Perm others) :
    PermUpTo R xs others := by
  rcases h with ⟨zs, hItems, hPairs⟩
  rcases List.perm_comp_forall₂ hPerm.symm hPairs.flip with
    ⟨ws, hOthers, hBack⟩
  exact ⟨ws, hItems.trans hBack.symm, hOthers.flip⟩

/- Partners are items of their lists. -/
theorem with_mem
    (h : PermUpTo R xs ys) :
    PermUpTo (fun x y => x ∈ xs ∧ R x y) xs ys := by
  rcases h with ⟨zs, hItems, hPairs⟩
  refine ⟨zs, hItems, (List.forall₂_and_left _ _).mpr ?_⟩
  exact ⟨fun _ hMem => hItems.mem_iff.mpr hMem, hPairs⟩

/- What is made of partners can be paired off. -/
theorem map
    {f : α → γ}
    {g : β → δ}
    (h : PermUpTo R xs ys)
    (hEach : ∀ x y, R x y → S (f x) (g y)) :
    PermUpTo S (xs.map f) (ys.map g) := by
  rcases h with ⟨zs, hItems, hPairs⟩
  refine ⟨zs.map f, hItems.map f, ?_⟩
  rw [List.forall₂_map_left_iff, List.forall₂_map_right_iff]
  exact hPairs.imp hEach

/- So can what is left, if partners are left out together. -/
theorem filterMap
    {f : α → Option γ}
    {g : β → Option δ}
    (h : PermUpTo R xs ys)
    (hEach : ∀ x y, R x y → Option.Rel S (f x) (g y)) :
    PermUpTo S (xs.filterMap f) (ys.filterMap g) := by
  rcases h with ⟨zs, hItems, hPairs⟩
  exact ⟨zs.filterMap f, hItems.filterMap f,
    List.rel_filterMap (fun {x y} => hEach x y) hPairs⟩

/- As many items have a property as partners have theirs. -/
theorem countP_eq
    {p : α → Bool}
    {q : β → Bool}
    (h : PermUpTo R xs ys)
    (hEach : ∀ x y, R x y → p x = q y) :
    xs.countP p = ys.countP q := by
  rcases h with ⟨zs, hItems, hPairs⟩
  have hSame := congrArg (List.countP id)
    (map_eq_map_of_forall₂ (hPairs.imp hEach))
  rw [List.countP_map, List.countP_map] at hSame
  exact (hItems.countP_eq p).trans hSame

private theorem exists_forall₂_of_steps
    {f : α → Except ε γ}
    {g : β → Except ε δ}
    {results : List γ}
    (hEach : ∀ x y, R x y → ∀ a, f x = .ok a →
      ∃ b, g y = .ok b ∧ S a b)
    (hPairs : List.Forall₂ R xs ys)
    (h : List.Forall₂ (fun x a => f x = .ok a) xs results) :
    ∃ others, List.Forall₂ (fun y b => g y = .ok b) ys others ∧
      List.Forall₂ S results others := by
  induction hPairs generalizing results with
  | nil =>
      cases h
      exact ⟨[], .nil, .nil⟩
  | cons hHead _ ih =>
      cases h with
      | cons hFirst hLater =>
          rcases hEach _ _ hHead _ hFirst with ⟨b, hB, hRel⟩
          rcases ih hLater with ⟨bs, hBs, hRels⟩
          exact ⟨b :: bs, .cons hB hBs, .cons hRel hRels⟩

/-
  If the step of an item succeeds, and then that of its partner
  with a related result, then items are worked off as long as
  their partners are.
-/
theorem mapM
    {f : α → Except ε γ}
    {g : β → Except ε δ}
    {results : List γ}
    (h : PermUpTo R xs ys)
    (hEach : ∀ x y, R x y → ∀ a, f x = .ok a →
      ∃ b, g y = .ok b ∧ S a b)
    (hResults : xs.mapM f = .ok results) :
    ∃ others, ys.mapM g = .ok others ∧
      PermUpTo S results others := by
  rcases h with ⟨zs, hItems, hPairs⟩
  rcases List.perm_comp_forall₂ hItems.symm
      (mapM_eq_ok_iff.mp hResults) with
    ⟨turned, hTurned, hPerm⟩
  rcases exists_forall₂_of_steps hEach hPairs hTurned with
    ⟨others, hOthers, hRelated⟩
  exact ⟨others, mapM_eq_ok_iff.mpr hOthers, turned, hPerm.symm,
    hRelated⟩

end PermUpTo

end Registrar
