import Mathlib.Data.List.Nodup
import Registrar.Answer.Classes
import Registrar.Proofs.Sequences

/-
  This file proves which classes records are put in.  Putting
  one more record in its class keeps the index and the classes
  in step, so that after all records the classes are the
  records filtered by each identity that occurs.

  Key definitions include:
    * `identitiesOf`
    * `sharing`
    * `Classification.Describes`

  Main statements:
    * `Classification.place_describes`
    * `classes_eq`
    * `existsUnique_class`
    * `flatten_classes_perm`
    * `classes_pairwise_findIdx`
-/

------------------------------------------------------------
-- One More Record
------------------------------------------------------------

namespace Registrar

/- The identities that records have, each of them once. -/
def identitiesOf
    (keys : List Key)
    (records : List Record) : List (List (Option Identity)) :=
  (records.map (identityIn keys)).eraseDups

/- The records with an identity. -/
def sharing
    (keys : List Key)
    (records : List Record)
    (shared : List (Option Identity)) : List Record :=
  records.filter fun record => identityIn keys record = shared

private theorem identitiesOf_concat
    (keys : List Key)
    (seen : List Record)
    (record : Record) :
    identitiesOf keys (seen ++ [record]) =
      if identityIn keys record ∈ identitiesOf keys seen then
        identitiesOf keys seen
      else
        identitiesOf keys seen ++ [identityIn keys record] := by
  unfold identitiesOf
  rw [List.map_append, List.map_singleton, eraseDups_concat]
  simp only [List.mem_eraseDups]

private theorem sharing_concat_self
    (keys : List Key)
    (seen : List Record)
    (record : Record) :
    sharing keys (seen ++ [record]) (identityIn keys record) =
      sharing keys seen (identityIn keys record) ++ [record] := by
  simp [sharing]

private theorem sharing_concat_of_ne
    {keys : List Key}
    {seen : List Record}
    {record : Record}
    {shared : List (Option Identity)}
    (h : identityIn keys record ≠ shared) :
    sharing keys (seen ++ [record]) shared =
      sharing keys seen shared := by
  simp [sharing, h]

namespace Classification

/-
  A state after some records: there is a class for each of
  their identities, and the index has its number.
-/
structure Describes
    (keys : List Key)
    (seen : List Record)
    (state : Classification) : Prop where
  classes_eq :
    state.classes =
      (identitiesOf keys seen).map (sharing keys seen)
  lookup_iff : ∀ shared number,
    state.index.lookup shared = some number ↔
      (identitiesOf keys seen)[number]? = some shared

/- Before any record there is no class. -/
theorem empty_describes (keys : List Key) :
    empty.Describes keys [] where
  classes_eq := rfl
  lookup_iff := by
    intro shared number
    constructor <;> intro h <;> cases h

/- A record that belongs to a class is put there. -/
private theorem place_describes_old
    {keys : List Key}
    {seen : List Record}
    {state : Classification}
    {record : Record}
    {number : Nat}
    (h : state.Describes keys seen)
    (hNumber : (identitiesOf keys seen)[number]? =
      some (identityIn keys record)) :
    Describes keys (seen ++ [record])
      { state with
        classes := state.classes.modify number
          (fun members => members ++ [record]) } := by
  have hOld :
      identityIn keys record ∈ identitiesOf keys seen :=
    List.mem_of_getElem? hNumber
  have hSame :
      identitiesOf keys (seen ++ [record]) =
        identitiesOf keys seen := by
    rw [identitiesOf_concat, if_pos hOld]
  refine ⟨?_, ?_⟩
  · rw [hSame, h.classes_eq]
    apply List.ext_getElem?
    intro i
    rw [List.getElem?_modify, List.getElem?_map,
      List.getElem?_map]
    by_cases hEq : number = i
    · subst hEq
      simp [hNumber, sharing_concat_self]
    · cases hShared : (identitiesOf keys seen)[i]? with
      | none => simp
      | some shared =>
          have hNe : identityIn keys record ≠ shared := by
            rintro rfl
            rcases List.getElem?_eq_some_iff.mp hNumber with
              ⟨hLess, -⟩
            exact hEq
              ((List.getElem?_inj hLess (nodup_eraseDups _)).mp
                (hNumber.trans hShared.symm))
          simp [hEq, sharing_concat_of_ne hNe]
  · rw [hSame]
    exact h.lookup_iff

/- A record without a class opens one. -/
private theorem place_describes_new
    {keys : List Key}
    {seen : List Record}
    {state : Classification}
    {record : Record}
    (h : state.Describes keys seen)
    (hNew :
      identityIn keys record ∉ identitiesOf keys seen) :
    Describes keys (seen ++ [record])
      { index :=
          (identityIn keys record, state.classes.length) ::
            state.index
        classes := state.classes ++ [[record]] } := by
  have hMore :
      identitiesOf keys (seen ++ [record]) =
        identitiesOf keys seen ++ [identityIn keys record] := by
    rw [identitiesOf_concat, if_neg hNew]
  have hLength :
      state.classes.length =
        (identitiesOf keys seen).length := by
    rw [h.classes_eq, List.length_map]
  have hNone :
      sharing keys seen (identityIn keys record) = [] := by
    apply List.filter_eq_nil_iff.mpr
    intro other hMem hEq
    apply hNew
    rw [← of_decide_eq_true hEq]
    exact List.mem_eraseDups.mpr (List.mem_map_of_mem hMem)
  refine ⟨?_, ?_⟩
  · rw [hMore, List.map_append, h.classes_eq]
    have hKeep :
        (identitiesOf keys seen).map (sharing keys seen) =
          (identitiesOf keys seen).map
            (sharing keys (seen ++ [record])) := by
      apply List.map_congr_left
      intro shared hMem
      rw [sharing_concat_of_ne]
      rintro rfl
      exact hNew hMem
    rw [hKeep, List.map_singleton, sharing_concat_self, hNone,
      List.nil_append]
  · intro shared number
    rw [hMore, List.lookup_cons, hLength]
    rw [getElem?_concat_eq_some_iff, ← h.lookup_iff]
    by_cases hEq : shared = identityIn keys record
    · subst hEq
      have hNotOld : ∀ number,
          ¬ state.index.lookup (identityIn keys record) =
            some number := fun number hOld =>
        hNew (List.mem_of_getElem? ((h.lookup_iff _ _).mp hOld))
      simp [hNotOld, eq_comm]
    · have hNe : ¬ identityIn keys record = shared := fun hBack =>
        hEq hBack.symm
      simp [hNe, beq_eq_false_iff_ne.mpr hEq]

/- Putting a record in its class keeps all in step. -/
theorem place_describes
    {keys : List Key}
    {seen : List Record}
    {state : Classification}
    (h : state.Describes keys seen)
    (record : Record) :
    (place keys state record).Describes keys
      (seen ++ [record]) := by
  unfold place
  dsimp only
  split
  · next number hLookup =>
      exact place_describes_old h
        ((h.lookup_iff _ _).mp hLookup)
  · next hLookup =>
      apply place_describes_new h
      intro hOld
      rcases List.mem_iff_getElem?.mp hOld with
        ⟨number, hNumber⟩
      rw [(h.lookup_iff _ _).mpr hNumber] at hLookup
      cases hLookup

/- All records are put in their classes. -/
theorem foldl_place_describes
    (keys : List Key)
    (records : List Record) :
    (records.foldl (place keys) empty).Describes keys
      records := by
  induction records using List.reverseRecOn with
  | nil => exact empty_describes keys
  | append_singleton seen record ih =>
      rw [List.foldl_append]
      exact place_describes ih record

end Classification

/- The classes are the records with each identity. -/
theorem classes_eq
    (keys : List Key)
    (records : List Record) :
    classes keys records =
      (identitiesOf keys records).map (sharing keys records) :=
  (Classification.foldl_place_describes keys records).classes_eq

------------------------------------------------------------
-- Members Of Classes
------------------------------------------------------------

section Members

variable {keys : List Key} {records members : List Record}

/- A class is what its members share. -/
theorem mem_classes_iff :
    members ∈ classes keys records ↔
      ∃ first ∈ records,
        members =
          sharing keys records (identityIn keys first) := by
  rw [classes_eq, List.mem_map]
  unfold identitiesOf
  constructor
  · rintro ⟨shared, hShared, rfl⟩
    rcases List.mem_map.mp (List.mem_eraseDups.mp hShared) with
      ⟨first, hFirst, rfl⟩
    exact ⟨first, hFirst, rfl⟩
  · rintro ⟨first, hFirst, rfl⟩
    refine ⟨_, List.mem_eraseDups.mpr ?_, rfl⟩
    exact List.mem_map_of_mem hFirst

/- Membership in a class is decided by the identity. -/
theorem mem_sharing_iff
    {shared : List (Option Identity)}
    {record : Record} :
    record ∈ sharing keys records shared ↔
      record ∈ records ∧ identityIn keys record = shared := by
  simp [sharing]

/- The members of a class share their identity. -/
theorem identityIn_eq_of_mem_classes
    {r s : Record}
    (h : members ∈ classes keys records)
    (hr : r ∈ members)
    (hs : s ∈ members) :
    identityIn keys r = identityIn keys s := by
  rcases mem_classes_iff.mp h with ⟨first, -, rfl⟩
  rw [(mem_sharing_iff.mp hr).2, (mem_sharing_iff.mp hs).2]

/- No class is empty. -/
theorem ne_nil_of_mem_classes
    (h : members ∈ classes keys records) :
    members ≠ [] := by
  rcases mem_classes_iff.mp h with ⟨first, hFirst, rfl⟩
  apply List.ne_nil_of_mem
  exact mem_sharing_iff.mpr ⟨hFirst, rfl⟩

/- Members keep their order. -/
theorem sublist_of_mem_classes
    (h : members ∈ classes keys records) :
    members.Sublist records := by
  rcases mem_classes_iff.mp h with ⟨first, -, rfl⟩
  exact List.filter_sublist

/- The class with a number has the identity of that number. -/
private theorem getElem?_classes_iff
    {number : Nat}
    {record : Record}
    (h : record ∈ records) :
    (∃ members, (classes keys records)[number]? = some members ∧
        record ∈ members) ↔
      (identitiesOf keys records)[number]? =
        some (identityIn keys record) := by
  rw [classes_eq, List.getElem?_map]
  constructor
  · rintro ⟨members, hMembers, hMem⟩
    rcases Option.map_eq_some_iff.mp hMembers with
      ⟨shared, hShared, rfl⟩
    rw [hShared, (mem_sharing_iff.mp hMem).2]
  · intro hShared
    refine ⟨_, Option.map_eq_some_iff.mpr ⟨_, hShared, rfl⟩, ?_⟩
    exact mem_sharing_iff.mpr ⟨h, rfl⟩

/- Each record is in exactly one class. -/
theorem existsUnique_class
    {record : Record}
    (h : record ∈ records) :
    ∃! number : Nat, ∃ members,
      (classes keys records)[number]? = some members ∧
        record ∈ members := by
  simp only [getElem?_classes_iff h]
  have hMem :
      identityIn keys record ∈ identitiesOf keys records :=
    List.mem_eraseDups.mpr (List.mem_map_of_mem h)
  rcases List.mem_iff_getElem?.mp hMem with ⟨number, hNumber⟩
  refine ⟨number, hNumber, ?_⟩
  intro other hOther
  rcases List.getElem?_eq_some_iff.mp hOther with ⟨hLess, -⟩
  exact (List.getElem?_inj hLess (nodup_eraseDups _)).mp
    (hOther.trans hNumber.symm)

/- Two records are in one class if they share the identity. -/
theorem exists_class_iff
    {r s : Record}
    (hr : r ∈ records)
    (hs : s ∈ records) :
    (∃ members ∈ classes keys records,
        r ∈ members ∧ s ∈ members) ↔
      identityIn keys r = identityIn keys s := by
  constructor
  · rintro ⟨members, hMembers, hrMem, hsMem⟩
    exact identityIn_eq_of_mem_classes hMembers hrMem hsMem
  · intro hEq
    refine ⟨_, mem_classes_iff.mpr ⟨r, hr, rfl⟩, ?_, ?_⟩
    · exact mem_sharing_iff.mpr ⟨hr, rfl⟩
    · exact mem_sharing_iff.mpr ⟨hs, hEq.symm⟩

end Members

------------------------------------------------------------
-- All Classes Together
------------------------------------------------------------

/- Records with one of several identities, by identity. -/
private theorem flatten_map_sharing_perm
    {keys : List Key}
    {records : List Record}
    {identities : List (List (Option Identity))}
    (h : identities.Nodup) :
    (identities.map (sharing keys records)).flatten.Perm
      (records.filter fun record =>
        identityIn keys record ∈ identities) := by
  induction identities with
  | nil => simp
  | cons shared rest ih =>
      rcases List.nodup_cons.mp h with ⟨hNew, hRest⟩
      rw [List.map_cons, List.flatten_cons]
      apply ((ih hRest).append_left _).trans
      have hSplit := List.filter_append_perm
        (fun record => identityIn keys record = shared)
        (records.filter fun record =>
          identityIn keys record ∈ shared :: rest)
      rw [List.filter_filter, List.filter_filter] at hSplit
      have hFirst :
          records.filter (fun record =>
              decide (identityIn keys record = shared) &&
                decide (identityIn keys record ∈
                  shared :: rest)) =
            sharing keys records shared := by
        apply List.filter_congr
        intro record _
        by_cases hEq : identityIn keys record = shared <;>
          simp [hEq]
      have hOthers :
          records.filter (fun record =>
              (!decide (identityIn keys record = shared)) &&
                decide (identityIn keys record ∈
                  shared :: rest)) =
            records.filter fun record =>
              identityIn keys record ∈ rest := by
        apply List.filter_congr
        intro record _
        by_cases hEq : identityIn keys record = shared
        · simp [hEq, hNew]
        · simp [hEq]
      rwa [hFirst, hOthers] at hSplit

/- The classes hold all records, and each as often. -/
theorem flatten_classes_perm
    (keys : List Key)
    (records : List Record) :
    (classes keys records).flatten.Perm records := by
  rw [classes_eq]
  apply (flatten_map_sharing_perm (nodup_eraseDups _)).trans
  rw [List.filter_eq_self.mpr]
  intro record hMem
  apply decide_eq_true
  exact List.mem_eraseDups.mpr (List.mem_map_of_mem hMem)

/- Items named once stand in the order of their first places. -/
private theorem eraseDups_pairwise_idxOf
    {α : Type}
    [BEq α] [LawfulBEq α]
    (xs : List α) :
    xs.eraseDups.Pairwise fun x y =>
      xs.idxOf x < xs.idxOf y := by
  induction xs using List.reverseRecOn with
  | nil => exact List.Pairwise.nil
  | append_singleton xs z ih =>
      have hOld :
          xs.eraseDups.Pairwise fun x y =>
            (xs ++ [z]).idxOf x < (xs ++ [z]).idxOf y := by
        apply ih.imp_of_mem
        intro x y hx hy hLess
        rwa [List.idxOf_append_of_mem (List.mem_eraseDups.mp hx),
          List.idxOf_append_of_mem (List.mem_eraseDups.mp hy)]
      rw [eraseDups_concat]
      split
      · exact hOld
      · next hNew =>
          apply List.pairwise_append.mpr
          refine ⟨hOld, List.pairwise_singleton _ z, ?_⟩
          intro x hx y hy
          rw [List.mem_singleton.mp hy]
          have hMem := List.mem_eraseDups.mp hx
          rw [List.idxOf_append_of_mem hMem,
            List.idxOf_append_of_notMem hNew]
          have := List.idxOf_lt_length_of_mem hMem
          omega

/- The first member of a class comes where its identity does. -/
private theorem findIdx_mem_sharing
    (keys : List Key)
    (records : List Record)
    (shared : List (Option Identity)) :
    records.findIdx (fun record =>
        record ∈ sharing keys records shared) =
      (records.map (identityIn keys)).idxOf shared := by
  have hSame :
      ∀ rest : List Record, (∀ r ∈ rest, r ∈ records) →
        rest.findIdx (fun record =>
            record ∈ sharing keys records shared) =
          (rest.map (identityIn keys)).idxOf shared := by
    intro rest
    induction rest with
    | nil => exact fun _ => rfl
    | cons record rest ih =>
        intro hRest
        rcases List.forall_mem_cons.mp hRest with
          ⟨hMem, hOthers⟩
        have hIff :
            record ∈ sharing keys records shared ↔
              identityIn keys record = shared := by
          rw [mem_sharing_iff, and_iff_right hMem]
        rw [List.findIdx_cons, List.map_cons, List.idxOf_cons,
          ih hOthers]
        by_cases hEq : identityIn keys record = shared
        · simp [hIff, hEq]
        · simp [hIff, hEq, beq_eq_false_iff_ne.mpr hEq]
  exact hSame records fun _ hMem => hMem

/- Classes stand in the order of their first members. -/
theorem classes_pairwise_findIdx
    (keys : List Key)
    (records : List Record) :
    (classes keys records).Pairwise fun earlier later =>
      records.findIdx (· ∈ earlier) <
        records.findIdx (· ∈ later) := by
  rw [classes_eq, List.pairwise_map]
  simp only [findIdx_mem_sharing]
  exact eraseDups_pairwise_idxOf _

end Registrar
