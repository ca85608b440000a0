import Mathlib.Data.List.Induction
import Registrar.Arrangement
import Registrar.Proofs.Preorder

/-
  This file proves that arranged items are in stable order if
  their comparison is a total preorder on them, and that the
  stable order is unique.

  Key definitions include:
    * `IsStableOrder`

  Main statements:
    * `arrange_isStableOrder`
    * `IsStableOrder.unique`
    * `forall₂_tied_of_sorted`
    * `arrange_flip`
-/

------------------------------------------------------------
-- Stable Orders
------------------------------------------------------------

namespace Registrar

variable {α : Type} {compare : α → α → Ordering}

/-
  The items in order, where items that are tied keep their
  order: those tied with any one of them stand as before.
-/
structure IsStableOrder
    (compare : α → α → Ordering)
    (items ordered : List α) : Prop where
  perm : ordered.Perm items
  sorted : ordered.Pairwise fun a b => compare a b ≠ .gt
  stable : ∀ x ∈ items,
    ordered.filter (fun y => compare x y = .eq) =
      items.filter (fun y => compare x y = .eq)

/- Only how the items themselves compare matters. -/
theorem IsStableOrder.congr
    {other : α → α → Ordering}
    {items ordered : List α}
    (h : IsStableOrder compare items ordered)
    (hEq : ∀ a ∈ items, ∀ b ∈ items,
      compare a b = other a b) :
    IsStableOrder other items ordered where
  perm := h.perm
  sorted := by
    apply h.sorted.imp_of_mem
    intro a b ha hb hab
    rwa [← hEq a (h.perm.mem_iff.mp ha) b
      (h.perm.mem_iff.mp hb)]
  stable := by
    intro x hMem
    have hSame : ∀ y ∈ items,
        decide (other x y = .eq) =
          decide (compare x y = .eq) := by
      intro y hOther
      rw [hEq x hMem y hOther]
    rw [List.filter_congr fun y hOther =>
        hSame y (h.perm.mem_iff.mp hOther),
      List.filter_congr hSame]
    exact h.stable x hMem

------------------------------------------------------------
-- Arranged Items Are In Stable Order
------------------------------------------------------------

/- An item takes its place in order. -/
private theorem placeItem_sorted
    {P : α → Prop}
    (h : PreordersOn P compare)
    {x : α}
    {arranged : List α}
    (hItem : P x)
    (hItems : ∀ y ∈ arranged, P y)
    (hSorted :
      arranged.Pairwise fun a b => compare b a ≠ .gt) :
    (placeItem compare x arranged).Pairwise
      fun a b => compare b a ≠ .gt := by
  induction arranged with
  | nil => exact List.pairwise_singleton _ x
  | cons y before ih =>
      rcases List.pairwise_cons.mp hSorted with ⟨hLast, hBefore⟩
      have hPlace : P y := hItems y List.mem_cons_self
      have hOthers : ∀ z ∈ before, P z := fun z hMem =>
        hItems z (List.mem_cons_of_mem y hMem)
      unfold placeItem
      split
      · next hLess =>
          apply List.pairwise_cons.mpr
          refine ⟨?_, ih hOthers hBefore⟩
          intro z hMem
          have hEither :=
            (placeItem_perm compare x before).mem_iff.mp hMem
          rcases List.mem_cons.mp hEither with hEq | hOld
          · rw [hEq, hLess]
            intro hBack
            cases hBack
          · exact hLast z hOld
      · next hNotLess =>
          have hyx : compare y x ≠ .gt := by
            rw [h.swap x y hItem hPlace]
            intro hBack
            exact hNotLess (Ordering.swap_eq_gt.mp hBack)
          apply List.pairwise_cons.mpr
          refine ⟨?_, hSorted⟩
          intro z hMem
          rcases List.mem_cons.mp hMem with hEq | hOld
          · rw [hEq]
            exact hyx
          · exact h.trans z y x (hOthers z hOld) hPlace hItem
              (hLast z hOld) hyx

/- An item stands behind those it is tied with. -/
private theorem placeItem_filter
    {P : α → Prop}
    (h : PreordersOn P compare)
    {r x : α}
    {arranged : List α}
    (hRef : P r)
    (hItem : P x)
    (hItems : ∀ y ∈ arranged, P y) :
    (placeItem compare x arranged).filter
        (fun y => compare r y = .eq) =
      (x :: arranged).filter
        (fun y => compare r y = .eq) := by
  induction arranged with
  | nil => rfl
  | cons y before ih =>
      have hPlace : P y := hItems y List.mem_cons_self
      have hOthers : ∀ z ∈ before, P z := fun z hMem =>
        hItems z (List.mem_cons_of_mem y hMem)
      unfold placeItem
      split
      · next hLess =>
          -- `x` passes `y`, so at most one of them is tied.
          have hNotBoth :
              ¬ (compare r x = .eq ∧ compare r y = .eq) := by
            rintro ⟨hx, hy⟩
            have hTied := h.tie_trans x r y hItem hRef hPlace
              (h.tie_symm hRef hItem hx) hy
            rw [hLess] at hTied
            cases hTied
          rw [List.filter_cons, ih hOthers]
          by_cases hx : compare r x = .eq
          · have hy : ¬ compare r y = .eq := fun hy =>
              hNotBoth ⟨hx, hy⟩
            simp [hx, hy]
          · simp [hx, List.filter_cons]
      · rfl

/-
  The run of all items: what has been arranged stays sorted,
  and tied items stand in the order in which they came.
-/
private theorem foldl_placeItem
    {P : α → Prop}
    (h : PreordersOn P compare)
    (items arranged : List α)
    (hItems : ∀ x ∈ items, P x)
    (hArranged : ∀ x ∈ arranged, P x)
    (hSorted :
      arranged.Pairwise fun a b => compare b a ≠ .gt) :
    let result :=
      items.foldl
        (fun arranged x => placeItem compare x arranged)
        arranged
    (result.Pairwise fun a b => compare b a ≠ .gt) ∧
      ∀ r, P r →
        result.filter (fun y => compare r y = .eq) =
          (items.reverse ++ arranged).filter
            (fun y => compare r y = .eq) := by
  induction items generalizing arranged with
  | nil => exact ⟨hSorted, fun _ _ => rfl⟩
  | cons x rest ih =>
      have hItem : P x := hItems x List.mem_cons_self
      have hPlaced : ∀ y ∈ placeItem compare x arranged, P y := by
        intro y hMem
        have hEither :=
          (placeItem_perm compare x arranged).mem_iff.mp hMem
        rcases List.mem_cons.mp hEither with hEq | hOld
        · rw [hEq]
          exact hItem
        · exact hArranged y hOld
      rcases ih (placeItem compare x arranged)
          (fun y hMem => hItems y (List.mem_cons_of_mem x hMem))
          hPlaced
          (placeItem_sorted h hItem hArranged hSorted) with
        ⟨hRunSorted, hRunTies⟩
      refine ⟨hRunSorted, ?_⟩
      intro r hRef
      rw [List.foldl_cons, hRunTies r hRef,
        List.filter_append,
        placeItem_filter h hRef hItem hArranged]
      simp [List.filter_append]

/- Arranging puts items in stable order. -/
theorem arrange_isStableOrder
    {items : List α}
    (h : PreordersOn (· ∈ items) compare) :
    IsStableOrder compare items (arrange compare items) := by
  rcases foldl_placeItem h items [] (fun _ hMem => hMem)
      (List.forall_mem_nil _) List.Pairwise.nil with
    ⟨hSorted, hTies⟩
  refine ⟨arrange_perm compare items, ?_, ?_⟩
  · exact List.pairwise_reverse.mpr hSorted
  · intro x hMem
    unfold arrange
    rw [List.filter_reverse, hTies x hMem, List.append_nil,
      List.filter_reverse, List.reverse_reverse]

------------------------------------------------------------
-- There Is Only One Stable Order
------------------------------------------------------------

/- The first of sorted items is not above what is tied with one. -/
private theorem head_ne_gt
    {P : α → Prop}
    (h : PreordersOn P compare)
    {x y : α}
    {xs : List α}
    (hItems : ∀ z ∈ x :: xs, P z)
    (hItem : P y)
    (hSorted :
      (x :: xs).Pairwise fun a b => compare a b ≠ .gt)
    (hTied : ∃ z ∈ x :: xs, compare y z = .eq) :
    compare x y ≠ .gt := by
  rcases hTied with ⟨z, hMem, hyz⟩
  have hx : P x := hItems x List.mem_cons_self
  have hz : P z := hItems z hMem
  have hzy := h.tie_symm hItem hz hyz
  have hxz : compare x z ≠ .gt := by
    rcases List.mem_cons.mp hMem with hEq | hLater
    · rw [hEq, h.refl x hx]
      intro hBack
      cases hBack
    · exact (List.pairwise_cons.mp hSorted).1 z hLater
  apply h.trans x z y hx hz hItem hxz
  rw [hzy]
  intro hBack
  cases hBack

/-
  The first items of two sorted lists are tied if each of them
  is tied with an item of the other list.
-/
private theorem heads_tied
    {P : α → Prop}
    (h : PreordersOn P compare)
    {x y : α}
    {xs ys : List α}
    (hLeftItems : ∀ z ∈ x :: xs, P z)
    (hRightItems : ∀ z ∈ y :: ys, P z)
    (hLeft :
      (x :: xs).Pairwise fun a b => compare a b ≠ .gt)
    (hRight :
      (y :: ys).Pairwise fun a b => compare a b ≠ .gt)
    (hx : ∃ z ∈ y :: ys, compare x z = .eq)
    (hy : ∃ z ∈ x :: xs, compare y z = .eq) :
    compare x y = .eq := by
  have hxItem := hLeftItems x List.mem_cons_self
  have hyItem := hRightItems y List.mem_cons_self
  by_contra hNot
  apply head_ne_gt h hRightItems hxItem hRight hx
  exact h.eq_lt_of_ne_gt hxItem hyItem
    (head_ne_gt h hLeftItems hyItem hLeft hy) hNot

/-
  Sorted lists of the same items are equal if the items tied
  with any one of them stand in the same order in both.
-/
private theorem eq_of_same_ties
    {P : α → Prop}
    (h : PreordersOn P compare)
    {xs ys : List α}
    (hItems : ∀ x ∈ xs, P x)
    (hPerm : xs.Perm ys)
    (hLeft : xs.Pairwise fun a b => compare a b ≠ .gt)
    (hRight : ys.Pairwise fun a b => compare a b ≠ .gt)
    (hTies : ∀ r ∈ xs,
      xs.filter (fun y => compare r y = .eq) =
        ys.filter (fun y => compare r y = .eq)) :
    xs = ys := by
  induction xs generalizing ys with
  | nil => exact hPerm.nil_eq
  | cons x xs ih =>
      cases ys with
      | nil => cases hPerm.symm.nil_eq
      | cons y ys =>
          rcases List.pairwise_cons.mp hLeft with
            ⟨hxs, hLeftRest⟩
          rcases List.pairwise_cons.mp hRight with
            ⟨hys, hRightRest⟩
          have hx : P x := hItems x List.mem_cons_self
          have hyMem : y ∈ x :: xs :=
            hPerm.mem_iff.mpr List.mem_cons_self
          have hxMem : x ∈ y :: ys :=
            hPerm.mem_iff.mp List.mem_cons_self
          -- Both heads are first of all, and hence tied.
          have hTied : compare x y = .eq :=
            heads_tied h hItems
              (fun z hMem => hItems z (hPerm.mem_iff.mpr hMem))
              hLeft hRight ⟨x, hxMem, h.refl x hx⟩
              ⟨y, hyMem, h.refl y (hItems y hyMem)⟩
          have hHead := hTies x List.mem_cons_self
          rw [List.filter_cons_of_pos
              (by simpa using h.refl x hx),
            List.filter_cons_of_pos (by simpa using hTied)]
            at hHead
          obtain rfl : x = y := (List.cons.inj hHead).1
          have hRest : xs = ys := by
            apply ih
              (fun z hMem =>
                hItems z (List.mem_cons_of_mem x hMem))
              ((List.perm_cons x).mp hPerm) hLeftRest hRightRest
            intro r hMem
            have hBoth :=
              hTies r (List.mem_cons_of_mem x hMem)
            by_cases hr : compare r x = .eq
            · rw [List.filter_cons_of_pos (by simpa using hr),
                List.filter_cons_of_pos (by simpa using hr)]
                at hBoth
              exact (List.cons.inj hBoth).2
            · rwa [List.filter_cons_of_neg (by simpa using hr),
                List.filter_cons_of_neg (by simpa using hr)]
                at hBoth
          rw [hRest]

/- Items have at most one stable order. -/
theorem IsStableOrder.unique
    {items xs ys : List α}
    (h : PreordersOn (· ∈ items) compare)
    (hLeft : IsStableOrder compare items xs)
    (hRight : IsStableOrder compare items ys) :
    xs = ys := by
  apply eq_of_same_ties h
    (fun _ hMem => hLeft.perm.mem_iff.mp hMem)
    (hLeft.perm.trans hRight.perm.symm)
    hLeft.sorted hRight.sorted
  intro r hMem
  have hItem := hLeft.perm.mem_iff.mp hMem
  rw [hLeft.stable r hItem, hRight.stable r hItem]

/-
  Items of two sorted lists are tied one by one, if each list
  has as many items tied with any item as the other one has.
-/
theorem forall₂_tied_of_sorted
    {P : α → Prop}
    (h : PreordersOn P compare)
    {xs ys : List α}
    (hLeftItems : ∀ x ∈ xs, P x)
    (hRightItems : ∀ y ∈ ys, P y)
    (hLeft : xs.Pairwise fun a b => compare a b ≠ .gt)
    (hRight : ys.Pairwise fun a b => compare a b ≠ .gt)
    (hTies : ∀ r, P r →
      xs.countP (fun x => compare r x = .eq) =
        ys.countP fun y => compare r y = .eq) :
    List.Forall₂ (fun x y => compare x y = .eq) xs ys := by
  have hOther : ∀ {r : α} {zs ws : List α}, P r → r ∈ zs →
      zs.countP (fun z => compare r z = .eq) =
        ws.countP (fun w => compare r w = .eq) →
      ∃ w ∈ ws, compare r w = .eq := by
    intro r zs ws hr hMem hCount
    have hPos : 0 < ws.countP fun w => compare r w = .eq := by
      rw [← hCount, List.countP_pos_iff]
      exact ⟨r, hMem, by simpa using h.refl r hr⟩
    simpa [List.countP_pos_iff] using hPos
  induction xs generalizing ys with
  | nil =>
      cases ys with
      | nil => exact .nil
      | cons y ys =>
          have hy := hRightItems y List.mem_cons_self
          rcases hOther hy List.mem_cons_self
              (hTies y hy).symm with
            ⟨w, hMem, -⟩
          cases hMem
  | cons x xs ih =>
      have hx := hLeftItems x List.mem_cons_self
      have hxOther := hOther hx List.mem_cons_self (hTies x hx)
      cases ys with
      | nil =>
          rcases hxOther with ⟨w, hMem, -⟩
          cases hMem
      | cons y ys =>
          have hy := hRightItems y List.mem_cons_self
          have hTied : compare x y = .eq :=
            heads_tied h hLeftItems hRightItems hLeft hRight
              hxOther
              (hOther hy List.mem_cons_self (hTies y hy).symm)
          refine .cons hTied (ih ?_ ?_ ?_ ?_ ?_)
          · exact (List.forall_mem_cons.mp hLeftItems).2
          · exact (List.forall_mem_cons.mp hRightItems).2
          · exact (List.pairwise_cons.mp hLeft).2
          · exact (List.pairwise_cons.mp hRight).2
          · intro r hr
            -- An item is tied with both heads or with none.
            have hBoth : compare r x = .eq ↔
                compare r y = .eq := by
              constructor
              · exact fun hrx =>
                  h.tie_trans r x y hr hx hy hrx hTied
              · exact fun hry =>
                  h.tie_trans r y x hr hy hx hry
                    (h.tie_symm hx hy hTied)
            have hCount := hTies r hr
            rw [List.countP_cons, List.countP_cons] at hCount
            simpa [hBoth] using hCount

------------------------------------------------------------
-- The Other End
------------------------------------------------------------

/-
  To order items from the other end, they can be turned round,
  ordered, and turned round again.
-/
theorem arrange_flip
    {items : List α}
    (h : PreordersOn (· ∈ items) compare) :
    arrange (fun a b => (compare a b).swap) items =
      (arrange compare items.reverse).reverse := by
  have hTurned : PreordersOn (· ∈ items.reverse) compare :=
    h.mono fun _ hMem => List.mem_reverse.mp hMem
  have hOrder := arrange_isStableOrder hTurned
  apply IsStableOrder.unique h.flip
    (arrange_isStableOrder h.flip)
  refine ⟨?_, ?_, ?_⟩
  · exact (List.reverse_perm _).trans
      (hOrder.perm.trans (List.reverse_perm _))
  · apply List.pairwise_reverse.mpr
    apply List.Pairwise.imp_of_mem _ hOrder.sorted
    intro a b ha hb hab
    have hA := List.mem_reverse.mp (hOrder.perm.mem_iff.mp ha)
    have hB := List.mem_reverse.mp (hOrder.perm.mem_iff.mp hb)
    rwa [← h.swap b a hB hA]
  · intro x hMem
    have hTies := hOrder.stable x (List.mem_reverse.mpr hMem)
    simp only [Ordering.swap_eq_eq]
    rw [List.filter_reverse, hTies, List.filter_reverse,
      List.reverse_reverse]

end Registrar
