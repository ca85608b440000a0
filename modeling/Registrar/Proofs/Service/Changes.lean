import Registrar.Proofs.Sequences
import Registrar.Proofs.Text.Bytes
import Registrar.Service.Catalog

/-
  This file proves that a catalog is what the changes made to it
  tell: under an id stands the data set that was added last, if
  it has not been taken out since.

  Data sets are added under free ids and taken out under others,
  so that under each id additions and removals alternate.

  Key definitions include:
    * `Catalog.Change`
    * `Catalog.lastOf`
    * `Catalog.Alternates`
    * `Catalog.Admits`
    * `Catalog.Reflects`

  Main statements:
    * `Catalog.get?_apply`
    * `Catalog.reflects_empty`
    * `Catalog.Reflects.apply`
-/

------------------------------------------------------------
-- Changes
------------------------------------------------------------

namespace Registrar

namespace Catalog

/- A change of a catalog. -/
inductive Change where
| addition (dataSet : DataSet)
| removal (id : String)
deriving DecidableEq

namespace Change

/- The id under which something changes. -/
def id : Change → String
| .addition dataSet => dataSet.id
| .removal id => id

/- What stands under the id afterwards. -/
def dataSet? : Change → Option DataSet
| .addition dataSet => some dataSet
| .removal _ => none

end Change

/- The changes under one id. -/
def changesOf
    (id : String)
    (changes : List Change) : List Change :=
  changes.filter fun change => change.id = id

/- What the last change under an id has left there. -/
def lastOf
    (id : String)
    (changes : List Change) : Option DataSet :=
  (changesOf id changes).getLast?.bind Change.dataSet?

/- Additions and removals by turns, an addition first. -/
def Alternates (changes : List Change) : Prop :=
  ∀ place change, changes[place]? = some change →
    (change.dataSet?.isSome ↔ place % 2 = 0)

/- One more change is under its own id only. -/
private theorem changesOf_concat
    (id : String)
    (changes : List Change)
    (change : Change) :
    changesOf id (changes ++ [change]) =
      changesOf id changes ++
        if change.id = id then [change] else [] := by
  unfold changesOf
  rw [List.filter_append]
  split
  · next h => simp [h]
  · next h => simp [h]

private theorem lastOf_concat
    (id : String)
    (changes : List Change)
    (change : Change) :
    lastOf id (changes ++ [change]) =
      if change.id = id then
        change.dataSet?
      else
        lastOf id changes := by
  unfold lastOf
  rw [changesOf_concat]
  split
  · simp
  · simp

/- Changes under other ids leave what stands under an id. -/
theorem lastOf_append_of_forall_ne
    {id : String}
    {changes later : List Change}
    (h : ∀ change ∈ later, change.id ≠ id) :
    lastOf id (changes ++ later) = lastOf id changes := by
  have hNone :
      later.filter (fun change => change.id = id) = [] :=
    List.filter_eq_nil_iff.mpr fun change hMem hEq =>
      h change hMem (of_decide_eq_true hEq)
  unfold lastOf changesOf
  rw [List.filter_append, hNone, List.append_nil]

/- The data set that stands under an id carries the id. -/
theorem id_eq_of_lastOf
    {id : String}
    {changes : List Change}
    {dataSet : DataSet}
    (h : lastOf id changes = some dataSet) :
    dataSet.id = id := by
  rcases Option.bind_eq_some_iff.mp h with
    ⟨change, hLast, hDataSet⟩
  have hMem := List.mem_of_getLast? hLast
  have hId := of_decide_eq_true (List.mem_filter.mp hMem).2
  cases change with
  | addition other =>
      rw [← Option.some.inj hDataSet]
      exact hId
  | removal other => cases hDataSet

private theorem alternates_concat_iff
    {changes : List Change}
    {change : Change} :
    Alternates (changes ++ [change]) ↔
      Alternates changes ∧
        (change.dataSet?.isSome ↔ changes.length % 2 = 0) := by
  unfold Alternates
  simp only [getElem?_concat_eq_some_iff]
  constructor
  · intro h
    exact ⟨fun place other hOther =>
        h place other (.inl hOther),
      h changes.length change (.inr ⟨rfl, rfl⟩)⟩
  · rintro ⟨hBefore, hLast⟩ place other
      (hOther | ⟨rfl, rfl⟩)
    · exact hBefore place other hOther
    · exact hLast

/-
  After additions and removals by turns something is left if
  their number is odd.
-/
private theorem isSome_getLast?_iff
    {changes : List Change}
    (h : Alternates changes) :
    (changes.getLast?.bind Change.dataSet?).isSome ↔
      changes.length % 2 = 1 := by
  cases changes using List.reverseRecOn with
  | nil => simp
  | append_singleton before change =>
      have hLast := (alternates_concat_iff.mp h).2
      rw [List.getLast?_concat, Option.bind_some, hLast,
        List.length_append, List.length_singleton]
      omega

------------------------------------------------------------
-- Catalogs And Changes
------------------------------------------------------------

/- A catalog holds the ids under which data sets stand. -/
theorem mem_ids_iff
    {catalog : Catalog}
    {id : String} :
    id ∈ catalog.ids ↔ (catalog.get? id).isSome :=
  (Directory.find?_isSome_iff id catalog.dataSets).symm

/- The catalog after a change. -/
def apply (catalog : Catalog) : Change → Catalog
| .addition dataSet =>
    ⟨Directory.insert dataSet.id dataSet catalog.dataSets⟩
| .removal id => ⟨Directory.erase id catalog.dataSets⟩

/- A change leaves what it says, and only under its own id. -/
theorem get?_apply
    {catalog : Catalog}
    (hAscending : catalog.dataSets.Ascending)
    (change : Change)
    (id : String) :
    (catalog.apply change).get? id =
      if change.id = id then
        change.dataSet?
      else
        catalog.get? id := by
  cases change with
  | addition dataSet =>
      split
      · next h =>
          rw [← h]
          exact Directory.find?_insert_self _ _ _
      · next h =>
          have hNe : id ≠ dataSet.id := fun hEq => h hEq.symm
          exact Directory.find?_insert_of_ne hNe _ _
  | removal other =>
      split
      · next h =>
          rw [← h]
          exact Directory.find?_erase_self hAscending
      · next h =>
          have hNe : id ≠ other := fun hEq => h hEq.symm
          exact Directory.find?_erase_of_ne hNe _

private theorem ascending_apply
    {catalog : Catalog}
    (hAscending : catalog.dataSets.Ascending)
    (change : Change) :
    (catalog.apply change).dataSets.Ascending := by
  cases change with
  | addition dataSet =>
      exact Directory.ascending_insert hAscending
  | removal id => exact Directory.ascending_erase hAscending

/- Additions are under free ids, and removals under others. -/
structure Admits
    (catalog : Catalog)
    (change : Change) : Prop where
  id_valid : IsDataSetId change.id
  adds_iff_free :
    change.dataSet?.isSome ↔ change.id ∉ catalog.ids

/-
  A catalog is what the changes made to it tell.  Its ids are
  valid and ascend by their bytes, and under an id stands what
  the last change there has left.
-/
structure Reflects
    (changes : List Change)
    (catalog : Catalog) : Prop where
  ids_valid : ∀ id ∈ catalog.ids, IsDataSetId id
  ids_ascending : catalog.ids.Pairwise fun a b =>
    Text.bytesOf a < Text.bytesOf b
  registered_iff :
    ∀ id, id ∈ catalog.ids ↔ (catalog.get? id).isSome
  id_eq : ∀ id dataSet,
    catalog.get? id = some dataSet → dataSet.id = id
  get?_eq : ∀ id, catalog.get? id = lastOf id changes
  changes_alternate : ∀ id, Alternates (changesOf id changes)

/- The order of names is the order of their bytes. -/
private theorem ascending_iff_bytes
    {catalog : Catalog} :
    catalog.dataSets.Ascending ↔
      catalog.ids.Pairwise fun a b =>
        Text.bytesOf a < Text.bytesOf b := by
  simp only [Text.bytesOf_lt_iff]
  exact Iff.rfl

/- The ids are in the order of a directory. -/
theorem Reflects.ascending
    {changes : List Change}
    {catalog : Catalog}
    (h : catalog.Reflects changes) :
    catalog.dataSets.Ascending :=
  ascending_iff_bytes.mpr h.ids_ascending

/- The empty catalog has not been changed. -/
theorem reflects_empty : empty.Reflects [] where
  ids_valid := List.forall_mem_nil _
  ids_ascending := List.Pairwise.nil
  registered_iff := fun _ => mem_ids_iff
  id_eq := fun _ _ h => by cases h
  get?_eq := fun _ => rfl
  changes_alternate := fun _ _ _ h => by cases h

/- A change that is admitted is told by one more change. -/
theorem Reflects.apply
    {changes : List Change}
    {catalog : Catalog}
    {change : Change}
    (h : catalog.Reflects changes)
    (hAdmits : catalog.Admits change) :
    (catalog.apply change).Reflects (changes ++ [change]) := by
  have hAscending := h.ascending
  have hFound : ∀ id, (catalog.apply change).get? id =
      lastOf id (changes ++ [change]) := by
    intro id
    rw [get?_apply hAscending, lastOf_concat, h.get?_eq]
  have hOrder := ascending_apply hAscending change
  refine ⟨?_, ascending_iff_bytes.mp hOrder,
    fun id => mem_ids_iff, ?_, hFound, ?_⟩
  · intro id hMem
    rw [mem_ids_iff, get?_apply hAscending] at hMem
    split at hMem
    · next hId => exact hId ▸ hAdmits.id_valid
    · exact h.ids_valid id (mem_ids_iff.mpr hMem)
  · intro id dataSet hSome
    exact id_eq_of_lastOf ((hFound id).symm.trans hSome)
  · intro id
    rw [changesOf_concat]
    split
    · next hId =>
        subst hId
        have hBefore := h.changes_alternate change.id
        refine alternates_concat_iff.mpr ⟨hBefore, ?_⟩
        have hOdd := isSome_getLast?_iff hBefore
        rw [hAdmits.adds_iff_free, mem_ids_iff, h.get?_eq, lastOf,
          hOdd]
        omega
    · rw [List.append_nil]
      exact h.changes_alternate id

end Catalog

end Registrar
