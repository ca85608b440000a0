/-
  This file states when a comparison is a total preorder on
  some items, and shows how such comparisons are combined: one
  decides where the other is undecided, or the order is seen
  from its other end.

  Outside of these items nothing is asked of the comparison.

  Key definitions include:
    * `PreordersOn`

  Main statements:
    * `PreordersOn.of_swap_trans`
    * `PreordersOn.of_comap`
    * `PreordersOn.thenBy`
    * `PreordersOn.flip`
-/

------------------------------------------------------------
-- Comparisons That Are Preorders
------------------------------------------------------------

namespace Registrar

variable {α β : Type}

/-
  A total preorder on the items with a property.  Items that
  do not differ are called tied.
-/
structure PreordersOn
    (P : α → Prop)
    (compare : α → α → Ordering) : Prop where
  refl : ∀ a, P a → compare a a = .eq
  swap : ∀ a b, P a → P b →
    compare b a = (compare a b).swap
  trans : ∀ a b c, P a → P b → P c →
    compare a b ≠ .gt → compare b c ≠ .gt →
      compare a c ≠ .gt
  tie_trans : ∀ a b c, P a → P b → P c →
    compare a b = .eq → compare b c = .eq →
      compare a c = .eq

namespace PreordersOn

variable {P : α → Prop} {compare first next : α → α → Ordering}

/- What is neither above nor below is tied. -/
private theorem eq_of_ne_gt
    {order : Ordering}
    (h : order ≠ .gt)
    (hSwap : order.swap ≠ .gt) :
    order = .eq := by
  cases order with
  | lt => exact absurd rfl hSwap
  | eq => rfl
  | gt => exact absurd rfl h

/- The other laws follow from symmetry and transitivity. -/
theorem of_swap_trans
    (hSwap : ∀ a b, P a → P b →
      compare b a = (compare a b).swap)
    (hTrans : ∀ a b c, P a → P b → P c →
      compare a b ≠ .gt → compare b c ≠ .gt →
        compare a c ≠ .gt) :
    PreordersOn P compare where
  refl := by
    intro a ha
    have hSelf := hSwap a a ha ha
    cases hOrder : compare a a with
    | lt => simp [hOrder] at hSelf
    | eq => rfl
    | gt => simp [hOrder] at hSelf
  swap := hSwap
  trans := hTrans
  tie_trans := by
    intro a b c ha hb hc hab hbc
    apply eq_of_ne_gt
    · apply hTrans a b c ha hb hc
      · rw [hab]
        intro hBack
        cases hBack
      · rw [hbc]
        intro hBack
        cases hBack
    · rw [← hSwap a c ha hc]
      apply hTrans c b a hc hb ha
      · rw [hSwap b c hb hc, hbc]
        intro hBack
        cases hBack
      · rw [hSwap a b ha hb, hab]
        intro hBack
        cases hBack

/- Fewer items are ordered as well. -/
theorem mono
    {Q : α → Prop}
    (h : PreordersOn P compare)
    (hSub : ∀ a, Q a → P a) :
    PreordersOn Q compare :=
  of_swap_trans
    (fun a b ha hb => h.swap a b (hSub a ha) (hSub b hb))
    (fun a b c ha hb hc =>
      h.trans a b c (hSub a ha) (hSub b hb) (hSub c hc))

/- Items are ordered as what is made of them is. -/
theorem of_comap
    {other : β → β → Ordering}
    {Q : β → Prop}
    {f : β → α}
    (h : PreordersOn P compare)
    (hMem : ∀ b, Q b → P (f b))
    (hEq : ∀ a b, Q a → Q b →
      other a b = compare (f a) (f b)) :
    PreordersOn Q other := by
  apply of_swap_trans
  · intro a b ha hb
    rw [hEq a b ha hb, hEq b a hb ha]
    exact h.swap (f a) (f b) (hMem a ha) (hMem b hb)
  · intro a b c ha hb hc
    rw [hEq a b ha hb, hEq b c hb hc, hEq a c ha hc]
    exact h.trans (f a) (f b) (f c) (hMem a ha) (hMem b hb)
      (hMem c hc)

/- A lawful comparison is a preorder on any items. -/
theorem of_transCmp [Std.TransCmp compare] :
    PreordersOn P compare := by
  apply of_swap_trans
  · intro a b _ _
    exact Std.OrientedCmp.eq_swap
  · intro a b c _ _ _ hab hbc
    apply Ordering.isLE_iff_ne_gt.mp
    exact Std.TransCmp.isLE_trans
      (Ordering.isLE_iff_ne_gt.mpr hab)
      (Ordering.isLE_iff_ne_gt.mpr hbc)

/- Two items can be compared from either side. -/
theorem eq_lt_of_ne_gt
    (h : PreordersOn P compare)
    {a b : α}
    (ha : P a)
    (hb : P b)
    (hNe : compare a b ≠ .gt)
    (hNotTied : compare a b ≠ .eq) :
    compare b a = .gt := by
  rw [h.swap a b ha hb]
  cases hOrder : compare a b with
  | lt => rfl
  | eq => exact absurd hOrder hNotTied
  | gt => exact absurd hOrder hNe

/- Items are tied with each other. -/
theorem tie_symm
    (h : PreordersOn P compare)
    {a b : α}
    (ha : P a)
    (hb : P b)
    (hTied : compare a b = .eq) :
    compare b a = .eq := by
  rw [h.swap a b ha hb, hTied]
  rfl

/- Less on either side of a chain is less at its ends. -/
private theorem lt_of_chain
    (h : PreordersOn P compare)
    {a b c : α}
    (ha : P a)
    (hb : P b)
    (hc : P c)
    (hab : compare a b ≠ .gt)
    (hbc : compare b c ≠ .gt)
    (hLess : compare a b = .lt ∨ compare b c = .lt) :
    compare a c = .lt := by
  cases hOrder : compare a c with
  | lt => rfl
  | gt => exact absurd hOrder (h.trans a b c ha hb hc hab hbc)
  | eq =>
      have hBack : compare c a ≠ .gt := by
        rw [h.swap a c ha hc, hOrder]
        intro hBack
        cases hBack
      rcases hLess with hLess | hLess
      · have hba := h.trans b c a hb hc ha hbc hBack
        rw [h.swap a b ha hb, hLess] at hba
        exact absurd rfl hba
      · have hcb := h.trans c a b hc ha hb hBack hab
        rw [h.swap b c hb hc, hLess] at hcb
        exact absurd rfl hcb

------------------------------------------------------------
-- Combined Comparisons
------------------------------------------------------------

/- A comparison that never decides. -/
theorem undecided :
    PreordersOn P fun _ _ => Ordering.eq :=
  of_swap_trans (fun _ _ _ _ => rfl)
    (fun _ _ _ _ _ _ h _ => h)

/- The next comparison decides where the first does not. -/
theorem thenBy
    (hFirst : PreordersOn P first)
    (hNext : PreordersOn P next) :
    PreordersOn P fun a b =>
      (first a b).then (next a b) := by
  have hSplit :
      ∀ x y : Ordering, x.then y ≠ .gt ↔
        x = .lt ∨ x = .eq ∧ y ≠ .gt := by
    decide
  apply of_swap_trans
  · intro a b ha hb
    rw [Ordering.swap_then, hFirst.swap a b ha hb,
      hNext.swap a b ha hb]
  · intro a b c ha hb hc hab hbc
    rw [hSplit] at hab hbc ⊢
    have hLe :
        ∀ x : Ordering, x = .lt ∨ x = .eq → x ≠ .gt := by
      decide
    have hFirstAB := hLe _ (hab.imp_right And.left)
    have hFirstBC := hLe _ (hbc.imp_right And.left)
    rcases hab with hab | ⟨hab, hNextAB⟩
    · exact .inl (hFirst.lt_of_chain ha hb hc hFirstAB
        hFirstBC (.inl hab))
    · rcases hbc with hbc | ⟨hbc, hNextBC⟩
      · exact .inl (hFirst.lt_of_chain ha hb hc hFirstAB
          hFirstBC (.inr hbc))
      · refine .inr ⟨?_, ?_⟩
        · exact hFirst.tie_trans a b c ha hb hc hab hbc
        · exact hNext.trans a b c ha hb hc hNextAB hNextBC

/- The order from its other end. -/
theorem flip
    (h : PreordersOn P compare) :
    PreordersOn P fun a b => (compare a b).swap := by
  have hFlip :
      ∀ a b, P a → P b → (compare a b).swap ≠ .gt →
        compare b a ≠ .gt := by
    intro a b ha hb hab
    rwa [h.swap a b ha hb]
  apply of_swap_trans
  · intro a b ha hb
    rw [h.swap a b ha hb]
  · intro a b c ha hb hc hab hbc
    rw [← h.swap a c ha hc]
    exact h.trans c b a hc hb ha (hFlip b c hb hc hbc)
      (hFlip a b ha hb hab)

end PreordersOn

end Registrar
