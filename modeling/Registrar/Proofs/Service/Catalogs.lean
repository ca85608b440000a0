import Registrar.Proofs.Service.Changes
import Registrar.Service.Sharing

/-
  This file proves what a catalog does when it is called and how
  it replies.

  Every call is one of three: it changes nothing, it adds a data
  set under a free id, or it takes one out.  The reply tells
  which, and names the first thing wrong if a change fails.

  Key definitions include:
    * `Catalog.change?`
    * `Catalog.addRead`
    * `Catalog.Answers`

  Main statements:
    * `Catalog.serve_cases`
    * `Catalog.Reflects.serve`
    * `Catalog.answers_of_serve`
-/

------------------------------------------------------------
-- Outcomes Of Changes
------------------------------------------------------------

namespace Registrar

namespace Catalog

/- Adding the records that have been read, if they have. -/
def addRead
    (catalog : Catalog)
    (id : String)
    (kind : Kind)
    (reading : Except Json.ReadError (List Record)) :
    Except Failure Catalog :=
  if IsDataSetId id then
    match reading with
    | .error e => .error (.undecodable e)
    | .ok records =>
        if id ∈ catalog.ids then
          .error (.idTaken id)
        else
          .ok (catalog.apply (.addition ⟨id, kind, records⟩))
  else
    .error (.wrongId id)

/- Records that are given need not be read. -/
theorem add_eq_addRead
    (catalog : Catalog)
    (id : String)
    (kind : Kind)
    (records : List Record) :
    catalog.add id kind records =
      catalog.addRead id kind (.ok records) := by
  unfold add addRead checkId
  split
  · rw [ok_bind]
    split
    · next h => simp [mem_ids_iff, h]
    · next h =>
        simp only [mem_ids_iff, h, apply]
        rfl
  · rfl

/- The id is checked before the text is read. -/
theorem addText_eq_addRead
    (catalog : Catalog)
    (id : String)
    (kind : Kind)
    (input : String) :
    catalog.addText id kind input =
      catalog.addRead id kind
        (Record.listOfText Json.Numeral.stepwise input) := by
  unfold addText checkId
  split
  · next hId =>
      rw [ok_bind]
      split
      · next h => simp [addRead, hId, h]
      · next h => rw [add_eq_addRead, h]
  · next hId => simp [addRead, hId]

/- What has been read is added under a free id. -/
theorem addRead_eq_ok_iff
    {catalog next : Catalog}
    {id : String}
    {kind : Kind}
    {reading : Except Json.ReadError (List Record)} :
    catalog.addRead id kind reading = .ok next ↔
      IsDataSetId id ∧ id ∉ catalog.ids ∧
        ∃ records, reading = .ok records ∧ next =
          catalog.apply (.addition ⟨id, kind, records⟩) := by
  unfold addRead
  by_cases hId : IsDataSetId id
  · cases reading with
    | error e => simp [hId]
    | ok records =>
        by_cases hTaken : id ∈ catalog.ids <;>
          simp [hId, hTaken, eq_comm]
  · simp [hId]

/- A data set that is there is taken out. -/
theorem remove_eq_ok_iff
    {catalog next : Catalog}
    {id : String} :
    catalog.remove id = .ok next ↔
      IsDataSetId id ∧ id ∈ catalog.ids ∧
        next = catalog.apply (.removal id) := by
  unfold remove checkId require
  rw [mem_ids_iff]
  by_cases hId : IsDataSetId id
  · cases hFound : catalog.get? id <;>
      simp [hId, apply, eq_comm]
  · simp [hId]

/- A call that could change the catalog has, or has failed. -/
private theorem settle_cases
    {catalog next : Catalog}
    {told : Catalog → Reply}
    {outcome : Except Failure Catalog}
    {reply : Reply}
    (h : catalog.settle told outcome = (next, reply)) :
    (outcome = .ok next ∧ reply = told next) ∨
      ∃ failure, outcome = .error failure ∧ next = catalog ∧
        reply = .failed failure := by
  cases outcome with
  | ok changed =>
      rcases Prod.mk.inj h with ⟨rfl, rfl⟩
      exact .inl ⟨rfl, rfl⟩
  | error failure =>
      rcases Prod.mk.inj h with ⟨rfl, rfl⟩
      exact .inr ⟨failure, rfl, rfl, rfl⟩

------------------------------------------------------------
-- What A Call Can Do
------------------------------------------------------------

/- The change that a call has made, as its reply tells. -/
def change? : Call → Reply → Option Change
| .add id kind records, .ids _ =>
    some (.addition ⟨id, kind, records⟩)
| .addText id kind input, .ids _ =>
    (Record.listOfText Json.Numeral.stepwise input).toOption.map
      fun records => .addition ⟨id, kind, records⟩
| .remove id, .removed _ => some (.removal id)
| _, _ => none

/-
  An addition has failed and changed nothing, or it was one that
  the catalog admits, and the ids are replied.
-/
private theorem addition_cases
    {catalog next : Catalog}
    {id : String}
    {kind : Kind}
    {reading : Except Json.ReadError (List Record)}
    {reply : Reply}
    (h : catalog.settle (fun next => .ids next.ids)
      (catalog.addRead id kind reading) = (next, reply)) :
    (∃ failure, reply = .failed failure ∧ next = catalog) ∨
      ∃ records, reading = .ok records ∧
        reply = .ids next.ids ∧
        catalog.Admits (.addition ⟨id, kind, records⟩) ∧
        next = catalog.apply (.addition ⟨id, kind, records⟩) := by
  rcases settle_cases h with
    ⟨hOk, rfl⟩ | ⟨failure, -, rfl, rfl⟩
  · rcases addRead_eq_ok_iff.mp hOk with
      ⟨hId, hFree, records, hRead, hNext⟩
    refine .inr ⟨records, hRead, rfl, ⟨hId, ?_⟩, hNext⟩
    exact iff_of_true rfl hFree
  · exact .inl ⟨failure, rfl, rfl⟩

/-
  A call changes nothing, or it makes the one change that its
  reply tells.
-/
theorem serve_cases
    {catalog next : Catalog}
    {call : Call}
    {reply : Reply}
    (h : catalog.serve call = (next, reply)) :
    (change? call reply = none ∧ next = catalog) ∨
      ∃ change, change? call reply = some change ∧
        catalog.Admits change ∧ next = catalog.apply change := by
  cases call with
  | add id kind records =>
      rw [serve, add_eq_addRead] at h
      rcases addition_cases h with
        ⟨failure, rfl, rfl⟩ | ⟨found, hRead, rfl, hAdmits, rfl⟩
      · exact .inl ⟨rfl, rfl⟩
      · rw [← Except.ok.inj hRead] at hAdmits ⊢
        exact .inr ⟨_, rfl, hAdmits, rfl⟩
  | addText id kind input =>
      rw [serve, addText_eq_addRead] at h
      rcases addition_cases h with
        ⟨failure, rfl, rfl⟩ | ⟨records, hRead, rfl, hAdmits, rfl⟩
      · exact .inl ⟨rfl, rfl⟩
      · refine .inr ⟨_, ?_, hAdmits, rfl⟩
        rw [change?, hRead]
        rfl
  | remove id =>
      rcases settle_cases h with
        ⟨hOk, rfl⟩ | ⟨failure, -, rfl, rfl⟩
      · rcases remove_eq_ok_iff.mp hOk with ⟨hId, hTaken, rfl⟩
        refine .inr ⟨.removal id, rfl, ⟨hId, ?_⟩, rfl⟩
        exact iff_of_false (by simp [Change.dataSet?])
          (not_not.mpr hTaken)
      · exact .inl ⟨rfl, rfl⟩
  | list =>
      rcases Prod.mk.inj h with ⟨rfl, rfl⟩
      exact .inl ⟨rfl, rfl⟩
  | get id =>
      rcases Prod.mk.inj h with ⟨rfl, rfl⟩
      exact .inl ⟨rfl, rfl⟩

/- A call leaves a catalog that the changes so far tell. -/
theorem Reflects.serve
    {changes : List Change}
    {catalog next : Catalog}
    {call : Call}
    {reply : Reply}
    (h : catalog.Reflects changes)
    (hServe : catalog.serve call = (next, reply)) :
    next.Reflects (changes ++ (change? call reply).toList) := by
  rcases serve_cases hServe with
    ⟨hNone, rfl⟩ | ⟨change, hSome, hAdmits, rfl⟩
  · rw [hNone, Option.toList_none, List.append_nil]
    exact h
  · rw [hSome, Option.toList_some]
    exact h.apply hAdmits

------------------------------------------------------------
-- Replies
------------------------------------------------------------

/- The id that a call names. -/
def Call.id? : Call → Option String
| .add id _ _ => some id
| .addText id _ _ => some id
| .remove id => some id
| .list => none
| .get id => some id

/-
  The reply when records are added: the ids, or the first thing
  wrong, in the order of the fields.
-/
structure AnswersAddition
    (catalog next : Catalog)
    (id : String)
    (reading : Except Json.ReadError (List Record))
    (reply : Reply) : Prop where
  succeeds_iff : (∃ ids, reply = .ids ids) ↔
    IsDataSetId id ∧ (∃ records, reading = .ok records) ∧
      id ∉ catalog.ids
  wrongId : ¬ IsDataSetId id → reply = .failed (.wrongId id)
  undecodable : IsDataSetId id → ∀ e, reading = .error e →
    reply = .failed (.undecodable e)
  idTaken : IsDataSetId id → (∃ records, reading = .ok records) →
    id ∈ catalog.ids → reply = .failed (.idTaken id)
  ids_eq : ∀ ids, reply = .ids ids → ids = next.ids

/- The reply when a data set is taken out. -/
structure AnswersRemoval
    (catalog : Catalog)
    (id : String)
    (reply : Reply) : Prop where
  succeeds_iff : reply = .removed id ↔
    IsDataSetId id ∧ id ∈ catalog.ids
  wrongId : ¬ IsDataSetId id → reply = .failed (.wrongId id)
  notFound : IsDataSetId id → id ∉ catalog.ids →
    reply = .failed (.dataSetNotFound id)

/- The reply when all data sets are listed. -/
structure AnswersListing
    (catalog : Catalog)
    (listings : List DataSet.Listing) : Prop where
  ids_eq : listings.map DataSet.Listing.id = catalog.ids
  listed : ∀ listing ∈ listings, ∃ dataSet,
    catalog.get? listing.id = some dataSet ∧
      listing = dataSet.listing

/-
  What a call of a catalog with these changes leaves, and what
  the reply is.
-/
structure Answers
    (changes : List Change)
    (catalog : Catalog)
    (call : Call)
    (next : Catalog)
    (reply : Reply) : Prop where
  unchanged_of_failed :
    ∀ failure, reply = .failed failure → next = catalog
  others_unchanged : ∀ id, call.id? ≠ some id →
    next.get? id = catalog.get? id
  add : ∀ id kind records, call = .add id kind records →
    AnswersAddition catalog next id (.ok records) reply
  addText : ∀ id kind input, call = .addText id kind input →
    AnswersAddition catalog next id
      (Record.listOfText Json.Numeral.stepwise input) reply
  remove : ∀ id, call = .remove id →
    AnswersRemoval catalog id reply
  list : call = .list → next = catalog ∧
    ∃ listings, reply = .listings listings ∧
      AnswersListing catalog listings
  get : ∀ id, call = .get id → next = catalog ∧
    reply = .found (lastOf id changes)

private theorem answersAddition_of_settle
    {catalog next : Catalog}
    {id : String}
    {kind : Kind}
    {reading : Except Json.ReadError (List Record)}
    {reply : Reply}
    (h : catalog.settle (fun next => .ids next.ids)
      (catalog.addRead id kind reading) = (next, reply)) :
    AnswersAddition catalog next id reading reply := by
  have hIds : ∀ ids, reply = .ids ids → ids = next.ids := by
    intro ids hReply
    rcases addition_cases h with
      ⟨failure, rfl, -⟩ | ⟨records, -, rfl, -, -⟩
    · cases hReply
    · exact (Reply.ids.inj hReply).symm
  unfold addRead at h
  by_cases hId : IsDataSetId id
  · cases reading with
    | error e =>
        rw [if_pos hId] at h
        rcases Prod.mk.inj h with ⟨-, rfl⟩
        exact ⟨by simp, by simp [hId], by simp, by simp, hIds⟩
    | ok records =>
        by_cases hTaken : id ∈ catalog.ids
        · simp only [if_pos hId, if_pos hTaken] at h
          rcases Prod.mk.inj h with ⟨-, rfl⟩
          exact ⟨by simp [hTaken], by simp [hId], by simp,
            by simp, hIds⟩
        · simp only [if_pos hId, if_neg hTaken] at h
          rcases Prod.mk.inj h with ⟨-, rfl⟩
          exact ⟨by simp [hId, hTaken], by simp [hId], by simp,
            by simp [hTaken], hIds⟩
  · rw [if_neg hId] at h
    rcases Prod.mk.inj h with ⟨-, rfl⟩
    exact ⟨by simp [hId], by simp, by simp [hId], by simp [hId],
      hIds⟩

private theorem answersRemoval_of_settle
    {catalog next : Catalog}
    {id : String}
    {reply : Reply}
    (h : catalog.settle (fun _ => .removed id)
      (catalog.remove id) = (next, reply)) :
    AnswersRemoval catalog id reply := by
  unfold remove checkId require at h
  by_cases hId : IsDataSetId id
  · cases hFound : catalog.get? id with
    | none =>
        have hFree : id ∉ catalog.ids := by
          simp [mem_ids_iff, hFound]
        rw [if_pos hId, hFound] at h
        rcases Prod.mk.inj h with ⟨-, rfl⟩
        exact ⟨by simp [hFree], by simp [hId], by simp⟩
    | some dataSet =>
        have hTaken : id ∈ catalog.ids := by
          simp [mem_ids_iff, hFound]
        rw [if_pos hId, hFound] at h
        rcases Prod.mk.inj h with ⟨-, rfl⟩
        exact ⟨by simp [hId, hTaken], by simp [hId],
          by simp [hTaken]⟩
  · rw [if_neg hId] at h
    rcases Prod.mk.inj h with ⟨-, rfl⟩
    exact ⟨by simp [hId], by simp, by simp [hId]⟩

private theorem answersListing_of_reflects
    {changes : List Change}
    {catalog : Catalog}
    (h : catalog.Reflects changes) :
    AnswersListing catalog catalog.listings := by
  have hFound : ∀ entry ∈ catalog.dataSets,
      catalog.get? entry.1 = some entry.2 := fun entry hMem =>
    (Directory.find?_eq_some_iff_mem h.ascending).mpr hMem
  have hId : ∀ entry ∈ catalog.dataSets,
      entry.2.id = entry.1 := fun entry hMem =>
    h.id_eq _ _ (hFound entry hMem)
  constructor
  · unfold listings ids Directory.names
    rw [List.map_map]
    exact List.map_congr_left hId
  · refine List.forall_mem_map.mpr fun entry hMem =>
      ⟨entry.2, ?_, rfl⟩
    rw [DataSet.listing, hId entry hMem]
    exact hFound entry hMem

/- What a call changes stands under the id that it names. -/
private theorem id?_eq_of_change?
    {call : Call}
    {reply : Reply}
    {change : Change}
    (h : change? call reply = some change) :
    call.id? = some change.id := by
  cases reply with
  | ids ids =>
      cases call with
      | add id kind records =>
          rw [← Option.some.inj h]
          rfl
      | addText id kind input =>
          rcases Option.map_eq_some_iff.mp h with
            ⟨records, -, rfl⟩
          rfl
      | _ => cases h
  | removed id =>
      cases call with
      | remove id =>
          rw [← Option.some.inj h]
          rfl
      | _ => cases h
  | _ => cases call <;> cases h

/- Every call is answered so. -/
theorem answers_of_serve
    {changes : List Change}
    {catalog next : Catalog}
    {call : Call}
    {reply : Reply}
    (hReflects : catalog.Reflects changes)
    (h : catalog.serve call = (next, reply)) :
    catalog.Answers changes call next reply := by
  have hCases := serve_cases h
  constructor
  · rintro failure rfl
    have hNone : change? call (.failed failure) = none := by
      cases call <;> rfl
    rcases hCases with ⟨-, hSame⟩ | ⟨change, hSome, -⟩
    · exact hSame
    · rw [hNone] at hSome
      cases hSome
  · intro id hOther
    rcases hCases with ⟨-, rfl⟩ | ⟨change, hSome, -, rfl⟩
    · rfl
    · rw [get?_apply hReflects.ascending]
      apply if_neg
      rintro rfl
      exact hOther (id?_eq_of_change? hSome)
  · rintro id kind records rfl
    rw [serve, add_eq_addRead] at h
    exact answersAddition_of_settle h
  · rintro id kind input rfl
    rw [serve, addText_eq_addRead] at h
    exact answersAddition_of_settle h
  · rintro id rfl
    exact answersRemoval_of_settle h
  · rintro rfl
    rcases Prod.mk.inj h with ⟨hNext, rfl⟩
    exact ⟨hNext.symm, _, rfl,
      answersListing_of_reflects hReflects⟩
  · rintro id rfl
    rcases Prod.mk.inj h with ⟨hNext, rfl⟩
    rw [hReflects.get?_eq]
    exact ⟨hNext.symm, rfl⟩

end Catalog

end Registrar
