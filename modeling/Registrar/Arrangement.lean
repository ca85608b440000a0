/-
  This file arranges lists by a comparison.  Each item goes
  behind the last of the items before it that it is not less
  than, so that items which do not differ keep their order.
  Nothing is assumed of the comparison.

  Key definitions include:
    * `placeItem`
    * `arrange`

  Arranging loses and adds nothing:
    * `placeItem_perm`
    * `arrange_perm`
-/

------------------------------------------------------------
-- Arranged Lists
------------------------------------------------------------

namespace Registrar

variable {α : Type}

/-
  An item takes its place among arranged items, the last one
  of which comes first in the list.
-/
def placeItem
    (compare : α → α → Ordering)
    (x : α) : List α → List α
| [] => [x]
| y :: before =>
    if compare x y = .lt then
      y :: placeItem compare x before
    else
      x :: y :: before

/- The items in order, one after the other. -/
def arrange
    (compare : α → α → Ordering)
    (xs : List α) : List α :=
  (xs.foldl
    (fun arranged x => placeItem compare x arranged)
    []).reverse

------------------------------------------------------------
-- The Same Items
------------------------------------------------------------

/- An item is put in, and nothing else changes. -/
theorem placeItem_perm
    (compare : α → α → Ordering)
    (x : α)
    (arranged : List α) :
    (placeItem compare x arranged).Perm (x :: arranged) := by
  induction arranged with
  | nil => exact List.Perm.refl _
  | cons y before ih =>
      unfold placeItem
      split
      · exact (ih.cons y).trans (List.Perm.swap x y before)
      · exact List.Perm.refl _

private theorem foldl_placeItem_perm
    (compare : α → α → Ordering)
    (xs arranged : List α) :
    (xs.foldl
      (fun arranged x => placeItem compare x arranged)
      arranged).Perm (xs ++ arranged) := by
  induction xs generalizing arranged with
  | nil => exact List.Perm.refl _
  | cons x rest ih =>
      apply (ih (placeItem compare x arranged)).trans
      apply ((placeItem_perm compare x arranged).append_left
        rest).trans
      exact List.perm_middle

/- The items stay the same. -/
theorem arrange_perm
    (compare : α → α → Ordering)
    (xs : List α) :
    (arrange compare xs).Perm xs := by
  apply (List.reverse_perm _).trans
  simpa using foldl_placeItem_perm compare xs []

end Registrar
