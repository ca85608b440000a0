/-
  This file defines directories: lists of named entries in
  ascending order of their names, one entry a name.  Names are
  ordered by code points, which is also the order of their
  UTF-8 bytes.

  Key definitions include:
    * `Directory`
    * `Directory.Ascending`
    * `Directory.names`
    * `Directory.find?`
    * `Directory.unexpected?`
    * `Directory.insert`
    * `Directory.erase`
    * `Directory.ofEntries`

  A directory answers as a map does, and its names keep their
  order:
    * `Directory.find?_insert_self`
    * `Directory.find?_insert_of_ne`
    * `Directory.find?_erase_self`
    * `Directory.find?_erase_of_ne`
    * `Directory.ascending_insert`
    * `Directory.ascending_erase`
    * `Directory.ascending_ofEntries`
-/

------------------------------------------------------------
-- Directories
------------------------------------------------------------

namespace Registrar

/- Named entries. -/
abbrev Directory (α : Type) :=
  List (String × α)

namespace Directory

variable {α : Type}

/- The names, in order. -/
def names (d : Directory α) : List String :=
  d.map Prod.fst

/- Each name lies below all later ones. -/
def Ascending (d : Directory α) : Prop :=
  d.names.Pairwise (· < ·)

instance (d : Directory α) : Decidable (Ascending d) := by
  unfold Ascending
  infer_instance

/- The entry under a name. -/
def find? (name : String) : Directory α → Option α
| [] => none
| (other, entry) :: rest =>
    if other = name then some entry else find? name rest

/- The first name that is none of those allowed. -/
def unexpected?
    (allowed : List String)
    (d : Directory α) : Option String :=
  d.names.find? (fun name => name ∉ allowed)

/- The entry under a name is added, or replaced. -/
def insert
    (name : String)
    (entry : α) : Directory α → Directory α
| [] => [(name, entry)]
| (other, old) :: rest =>
    if name < other then
      (name, entry) :: (other, old) :: rest
    else if name = other then
      (name, entry) :: rest
    else
      (other, old) :: insert name entry rest

/- The entry under a name is taken out. -/
def erase (name : String) : Directory α → Directory α
| [] => []
| (other, entry) :: rest =>
    if other = name then
      rest
    else
      (other, entry) :: erase name rest

/- Entries in any order; the last one under a name stays. -/
def ofEntries (entries : List (String × α)) : Directory α :=
  entries.foldl
    (fun d entry => insert entry.1 entry.2 d) []

------------------------------------------------------------
-- Looking Up
------------------------------------------------------------

/- What has just been inserted is found. -/
theorem find?_insert_self
    (name : String)
    (entry : α)
    (d : Directory α) :
    find? name (insert name entry d) = some entry := by
  induction d with
  | nil => simp [insert, find?]
  | cons head rest ih =>
      rcases head with ⟨other, old⟩
      unfold insert
      split
      · simp [find?]
      · split
        · simp [find?]
        · next hNe =>
            have hOther : ¬ other = name :=
              fun h => hNe h.symm
            simp [find?, hOther, ih]

/- Inserting changes nothing under other names. -/
theorem find?_insert_of_ne
    {name other : String}
    (hNe : other ≠ name)
    (entry : α)
    (d : Directory α) :
    find? other (insert name entry d) = find? other d := by
  induction d with
  | nil => simp [insert, find?, hNe.symm]
  | cons head rest ih =>
      rcases head with ⟨first, old⟩
      unfold insert
      split
      · simp [find?, hNe.symm]
      · split
        · next hFirst =>
            subst hFirst
            simp [find?, hNe.symm]
        · by_cases hOther : first = other
          · simp [find?, hOther]
          · simp [find?, hOther, ih]

/- A name is found exactly if it is one of the names. -/
theorem find?_isSome_iff
    (name : String)
    (d : Directory α) :
    (find? name d).isSome ↔ name ∈ d.names := by
  induction d with
  | nil => simp [find?, names]
  | cons head rest ih =>
      rcases head with ⟨other, old⟩
      by_cases hOther : other = name
      · simp [find?, names, hOther]
      · have hNe : ¬ name = other := fun h => hOther h.symm
        simpa [find?, names, hOther, hNe] using ih

/- Taking an entry out changes nothing under other names. -/
theorem find?_erase_of_ne
    {name other : String}
    (hNe : other ≠ name)
    (d : Directory α) :
    find? other (erase name d) = find? other d := by
  induction d with
  | nil => rfl
  | cons head rest ih =>
      rcases head with ⟨first, old⟩
      by_cases hFirst : first = name
      · simp [erase, find?, hFirst, hNe.symm]
      · by_cases hOther : first = other
        · simp [erase, find?, hOther, hNe]
        · simp [erase, find?, hFirst, hOther, ih]

------------------------------------------------------------
-- Order Of Names
------------------------------------------------------------

/- Inserting adds one name. -/
theorem mem_names_insert
    {name other : String}
    {entry : α}
    {d : Directory α} :
    other ∈ (insert name entry d).names ↔
      other = name ∨ other ∈ d.names := by
  rw [← find?_isSome_iff, ← find?_isSome_iff]
  by_cases hNe : other = name
  · simp [hNe, find?_insert_self]
  · simp [hNe, find?_insert_of_ne hNe]

/- The names that are left were there before. -/
theorem names_erase_sublist
    (name : String)
    (d : Directory α) :
    (erase name d).names.Sublist d.names := by
  induction d with
  | nil => exact List.Sublist.refl _
  | cons head rest ih =>
      rcases head with ⟨other, old⟩
      unfold erase
      split
      · exact List.sublist_cons_self _ _
      · exact ih.cons_cons other

/- Inserting keeps the names in order. -/
theorem ascending_insert
    {name : String}
    {entry : α}
    {d : Directory α}
    (h : d.Ascending) :
    (insert name entry d).Ascending := by
  induction d with
  | nil => simp [insert, Ascending, names]
  | cons head rest ih =>
      rcases head with ⟨other, old⟩
      have hParts := List.pairwise_cons.mp h
      unfold insert
      split
      · next hLess =>
          apply List.pairwise_cons.mpr
          refine ⟨?_, h⟩
          intro later hLater
          rcases List.mem_cons.mp hLater with hEq | hRest
          · rw [hEq]
            exact hLess
          · exact String.lt_trans hLess
              (hParts.1 later hRest)
      · next hNotLess =>
          split
          · next hEq =>
              subst hEq
              exact h
          · next hNe =>
              have hAbove : other < name := by
                rcases String.le_total name other with hLe | hLe
                · exact absurd
                    (String.le_antisymm hLe
                      (String.not_lt.mp hNotLess)) hNe
                · exact String.not_le.mp fun hBack =>
                    hNe (String.le_antisymm hBack hLe)
              apply List.pairwise_cons.mpr
              refine ⟨?_, ih hParts.2⟩
              intro later hLater
              rcases mem_names_insert.mp hLater with
                hEq | hRest
              · rw [hEq]
                exact hAbove
              · exact hParts.1 later hRest

/- Taking an entry out keeps the names in order. -/
theorem ascending_erase
    {name : String}
    {d : Directory α}
    (h : d.Ascending) :
    (erase name d).Ascending :=
  List.Pairwise.sublist (names_erase_sublist name d) h

/- Entries in any order become a directory. -/
theorem ascending_ofEntries (entries : List (String × α)) :
    Ascending (ofEntries entries) := by
  have hAll :
      ∀ (rest : List (String × α)) (d : Directory α),
        d.Ascending →
          Ascending
            (rest.foldl
              (fun d entry => insert entry.1 entry.2 d) d) := by
    intro rest
    induction rest with
    | nil =>
        intro d h
        exact h
    | cons entry rest ih =>
        intro d h
        exact ih _ (ascending_insert h)
  exact hAll entries [] List.Pairwise.nil

/- What has been taken out is not found. -/
theorem find?_erase_self
    {name : String}
    {d : Directory α}
    (h : d.Ascending) :
    find? name (erase name d) = none := by
  induction d with
  | nil => rfl
  | cons head rest ih =>
      rcases head with ⟨other, old⟩
      have hParts := List.pairwise_cons.mp h
      by_cases hOther : other = name
      · subst hOther
        have hAbsent : other ∉ names rest := by
          intro hMem
          exact String.lt_irrefl other (hParts.1 other hMem)
        have hNone : ¬ (find? other rest).isSome := by
          rw [find?_isSome_iff]
          exact hAbsent
        simpa [erase] using hNone
      · simp [erase, find?, hOther, ih hParts.2]

end Directory

end Registrar
