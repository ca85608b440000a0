import Registrar.Proofs.Query.Conditions
import Registrar.Proofs.Query.Groupings
import Registrar.Query.Basic

/-
  This file proves from which documents queries are read: those
  whose members state a condition, a selection, perhaps a
  grouping, and nothing else, such that the columns can be
  shown and all keys name one data set.

  Key definitions include:
    * `Request.membersWith`
    * `Request.StatedBy`
    * `Query.IsStated`

  Main statements:
    * `Request.ofMembers_eq_ok_iff`
    * `Request.forall_mem_keys_iff`
    * `Request.dataSet_eq_ok_iff`
    * `Query.ofJson_eq_ok_iff`
-/

------------------------------------------------------------
-- The Parts Of A Query
------------------------------------------------------------

namespace Registrar

namespace Request

/-
  The members of a request whose condition and selection are
  written so.
-/
def membersWith
    (condition selection : Json)
    (request : Request) : Directory Json :=
  ("OPTIONS", selection) ::
    ((request.grouping.map fun grouping =>
        ("TRANSFORMATIONS", grouping.toJson)).toList ++
      [("WHERE", condition)])

/-
  The parts of a request are those that its documents state, and
  its columns can be shown.
-/
structure StatedBy
    (condition selection : Json)
    (request : Request) : Prop where
  condition_read :
    Condition.ofJson condition = .ok request.condition
  selection_read :
    Selection.ofJson selection = .ok request.selection
  grouping_wellFormed :
    ∀ grouping ∈ request.grouping, grouping.IsWellFormed
  columns_shown : ∀ column ∈ request.selection.columns,
    checkColumn request.grouping column = .ok ()

/- The parts of a decoded document are decoded. -/
theorem decoded_parts
    {condition selection : Json}
    {request : Request}
    (hDecoded :
      (Json.object
        (request.membersWith condition selection)).Decoded) :
    condition.Decoded ∧ selection.Decoded := by
  have hWhere : ("WHERE", condition) ∈
      request.membersWith condition selection := by
    simp [membersWith]
  have hOptions : ("OPTIONS", selection) ∈
      request.membersWith condition selection := by
    simp [membersWith]
  rw [Json.Decoded] at hDecoded
  exact ⟨Json.decoded_of_mem hDecoded.2 hWhere,
    Json.decoded_of_mem hDecoded.2 hOptions⟩

private theorem groupingOf_eq_ok_iff
    {members : Directory Json}
    {grouping : Option Grouping}
    (hDecoded : Json.DecodedMembers members) :
    groupingOf members = .ok grouping ↔
      Directory.find? "TRANSFORMATIONS" members =
          grouping.map Grouping.toJson ∧
        ∀ g ∈ grouping, g.IsWellFormed := by
  unfold groupingOf
  split
  · next hNone =>
      rw [hNone]
      cases grouping <;> simp
  · next document hDocument =>
      have hGrouping := Json.decoded_of_mem hDecoded
        (Directory.mem_of_find? hDocument)
      rw [hDocument, bind_eq_ok_iff]
      simp only [Grouping.ofJson_eq_ok_iff hGrouping]
      constructor
      · rintro ⟨found, ⟨rfl, hFound⟩, hEq⟩
        cases hEq
        exact ⟨rfl, by simpa using hFound⟩
      · rintro ⟨hEq, hAll⟩
        cases grouping with
        | none => cases hEq
        | some found =>
            refine ⟨found, ⟨Option.some.inj hEq, ?_⟩, rfl⟩
            exact hAll found rfl

/- A request is read from members that state its parts. -/
theorem ofMembers_eq_ok_iff
    {members : Directory Json}
    {request : Request}
    (hAscending : members.Ascending)
    (hDecoded : Json.DecodedMembers members) :
    ofMembers members = .ok request ↔
      ∃ condition selection,
        members = request.membersWith condition selection ∧
        request.StatedBy condition selection := by
  constructor
  · intro h
    unfold ofMembers at h
    split at h
    · next condition selection hWhere hOptions =>
        split at h
        · cases h
        · next hExpected =>
            rcases bind_eq_ok_iff.mp h with
              ⟨c, hCondition, hRest⟩
            rcases bind_eq_ok_iff.mp hRest with
              ⟨s, hSelection, hLater⟩
            rcases bind_eq_ok_iff.mp hLater with
              ⟨g, hGrouping, hLast⟩
            rcases bind_eq_ok_iff.mp hLast with
              ⟨⟨⟩, hColumns, hEq⟩
            cases hEq
            rcases (groupingOf_eq_ok_iff hDecoded).mp
                hGrouping with
              ⟨hFound, hWellFormed⟩
            have hMembers :=
              Directory.eq_of_unexpected?_eq_none
                hAscending (by decide) hExpected
            refine ⟨condition, selection, ?_, hCondition,
              hSelection, hWellFormed,
              forM_eq_ok_iff.mp hColumns⟩
            rw [hMembers]
            cases g <;>
              simp [Directory.entriesOf, membersWith, hWhere,
                hOptions, hFound]
    · cases h
  · rintro ⟨condition, selection, rfl, h⟩
    rcases request with ⟨c, s, g⟩
    have hGrouping :
        groupingOf (membersWith condition selection ⟨c, s, g⟩) =
          .ok g := by
      apply (groupingOf_eq_ok_iff hDecoded).mpr
      refine ⟨?_, h.grouping_wellFormed⟩
      cases g <;> simp [membersWith, Directory.find?]
    have hWhere :
        Directory.find? "WHERE"
          (membersWith condition selection ⟨c, s, g⟩) =
            some condition := by
      cases g <;> simp [membersWith, Directory.find?]
    have hOptions :
        Directory.find? "OPTIONS"
          (membersWith condition selection ⟨c, s, g⟩) =
            some selection := by
      simp [membersWith, Directory.find?]
    have hExpected :
        Directory.unexpected?
          ["OPTIONS", "TRANSFORMATIONS", "WHERE"]
          (membersWith condition selection ⟨c, s, g⟩) =
            none := by
      cases g <;>
        simp [membersWith, Directory.unexpected?,
          Directory.names]
    have hColumns := forM_eq_ok_iff.mpr h.columns_shown
    unfold ofMembers
    rw [hWhere, hOptions]
    simp only [hExpected, h.condition_read, h.selection_read,
      hGrouping, hColumns, ok_bind]
    rfl

/- All keys of a request are those of its parts. -/
theorem forall_mem_keys_iff
    {request : Request}
    {P : Key → Prop} :
    (∀ key ∈ request.keys, P key) ↔
      (∀ key ∈ request.condition.keys, P key) ∧
      (∀ key ∈ request.selection.keys, P key) ∧
      ∀ grouping ∈ request.grouping,
        ∀ key ∈ grouping.allKeys, P key := by
  unfold keys
  rw [List.forall_mem_append, List.forall_mem_append]
  cases request.grouping <;> simp

/-
  A request is on a data set if it has keys and all of them
  name the data set.
-/
theorem dataSet_eq_ok_iff
    {request : Request}
    {id : String} :
    request.dataSet = .ok id ↔
      request.keys ≠ [] ∧
        ∀ key ∈ request.keys, key.dataSet = id := by
  have hIds :
      idsOf request.keys = [id] ↔
        (request.keys.map Key.dataSet).eraseDups = [id] := by
    unfold idsOf
    constructor
    · intro h
      have hPerm := List.mergeSort_perm
        (request.keys.map Key.dataSet).eraseDups
        (fun a b => decide (a ≤ b))
      rw [h] at hPerm
      exact (List.singleton_perm.mp hPerm).symm
    · intro h
      rw [h, List.mergeSort_singleton]
  have hDataSet :
      request.dataSet = .ok id ↔
        idsOf request.keys = [id] := by
    unfold dataSet
    split <;> simp_all
  rw [hDataSet, hIds]
  cases hKeys : request.keys with
  | nil => simp
  | cons key rest =>
      rw [List.map_cons, List.eraseDups_cons]
      constructor
      · intro h
        rcases List.cons.inj h with ⟨rfl, hRest⟩
        refine ⟨List.cons_ne_nil _ _, ?_⟩
        intro other hMem
        rcases List.mem_cons.mp hMem with rfl | hLater
        · rfl
        · by_contra hNe
          have hLeft : other.dataSet ∈
              (rest.map Key.dataSet).filter
                (fun id => !id == key.dataSet) := by
            apply List.mem_filter.mpr
            refine ⟨List.mem_map_of_mem hLater, ?_⟩
            simpa using hNe
          rw [← List.mem_eraseDups, hRest] at hLeft
          cases hLeft
      · rintro ⟨-, hAll⟩
        rcases List.forall_mem_cons.mp hAll with ⟨rfl, hRest⟩
        have hNone :
            (rest.map Key.dataSet).filter
              (fun id => !id == key.dataSet) = [] := by
          apply List.filter_eq_nil_iff.mpr
          intro id hMem
          rcases List.mem_map.mp hMem with ⟨other, hOther, rfl⟩
          simp [hRest other hOther]
        rw [hNone]
        rfl

end Request

------------------------------------------------------------
-- Queries
------------------------------------------------------------

namespace Query

/- A query's own document is made of those of its parts. -/
theorem toJson_eq (query : Query) :
    query.toJson =
      .object (query.toRequest.membersWith
        query.condition.toJson query.selection.toJson) := by
  rcases query with ⟨⟨c, s, _ | g⟩, id⟩ <;> rfl

/-
  A query is read from the documents that state its parts, if
  all of its keys name one data set.
-/
theorem ofJson_eq_ok_iff
    {document : Json}
    {query : Query}
    (hDecoded : document.Decoded) :
    ofJson document = .ok query ↔
      query.toRequest.dataSet = .ok query.dataSet ∧
        ∃ condition selection,
          document = .object
            (query.toRequest.membersWith condition selection) ∧
          query.toRequest.StatedBy condition selection := by
  cases document with
  | object members =>
      rw [Json.Decoded] at hDecoded
      simp only [Json.object.injEq]
      rw [← Request.ofMembers_eq_ok_iff hDecoded.1 hDecoded.2]
      rcases query with ⟨request, id⟩
      unfold ofJson
      constructor
      · intro h
        split at h
        · cases h
        · next found hFound =>
            split at h
            · cases h
            · next found' hId =>
                cases h
                exact ⟨hId, hFound⟩
      · rintro ⟨hId, hRequest⟩
        dsimp only at hId hRequest
        simp [Request.ofJson, hRequest, hId]
  | _ => simp [ofJson, Request.ofJson]

/- A query that is read from some decoded document. -/
def IsStated (query : Query) : Prop :=
  ∃ document : Json,
    document.Decoded ∧ ofJson document = .ok query

/- The selection of a query is well formed. -/
theorem IsStated.selection_wellFormed
    {query : Query}
    (h : query.IsStated) :
    query.selection.IsWellFormed := by
  rcases h with ⟨document, hDecoded, hRead⟩
  rcases (ofJson_eq_ok_iff hDecoded).mp hRead with
    ⟨-, condition, selection, rfl, hStated⟩
  have hSelection := (Request.decoded_parts hDecoded).2
  exact ((Selection.ofJson_eq_ok_iff hSelection).mp
    hStated.selection_read).1

end Query

end Registrar
