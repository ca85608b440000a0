import Registrar.Proofs.Service.Catalogs

/-
  This file proves that catalogs stay what the changes made to
  them tell, whatever is done and through whichever handles.

  One action keeps each catalog in step with the exchanges that
  concern it; a run is one action after the other.

  Key definitions include:
    * `Registry.changesAt`
    * `Registry.Tells`

  Main statements:
    * `Registry.run_concat`
    * `Registry.Tells.step`
    * `Registry.Tells.run`
    * `Registry.tells_run`
    * `Registry.exists_catalog_of_run`
    * `Registry.run_reflects_log`
-/

------------------------------------------------------------
-- Exchanges With One Catalog
------------------------------------------------------------

namespace Registrar

namespace Registry

/- The changes that exchanges at one place have made. -/
def changesAt
    (place : Nat)
    (log : List Exchange) : List Catalog.Change :=
  log.filterMap fun exchange =>
    if exchange.place = place then
      Catalog.change? exchange.call exchange.reply
    else
      none

/- Exchanges make changes one after the other. -/
theorem changesAt_append
    (place : Nat)
    (log later : List Exchange) :
    changesAt place (log ++ later) =
      changesAt place log ++ changesAt place later :=
  List.filterMap_append

/- One more exchange may make one more change at its place. -/
private theorem changesAt_concat
    (place : Nat)
    (log : List Exchange)
    (exchange : Exchange) :
    changesAt place (log ++ [exchange]) =
      changesAt place log ++
        if exchange.place = place then
          (Catalog.change? exchange.call exchange.reply).toList
        else
          [] := by
  rw [changesAt_append]
  congr 1
  unfold changesAt
  split
  · next h =>
      cases hChange :
          Catalog.change? exchange.call exchange.reply <;>
        simp [h, hChange]
  · next h => simp [h]

/- Exchanges elsewhere make no changes at a place. -/
private theorem changesAt_eq_nil
    {place : Nat}
    {log : List Exchange}
    (h : ∀ exchange ∈ log, exchange.place ≠ place) :
    changesAt place log = [] :=
  List.filterMap_eq_nil_iff.mpr fun exchange hMem =>
    if_neg (h exchange hMem)

------------------------------------------------------------
-- Runs
------------------------------------------------------------

/- The last action of a run comes after the others. -/
theorem run_concat
    (registry : Registry)
    (actions : List Action)
    (action : Action) :
    registry.run (actions ++ [action]) =
      (((registry.run actions).1.step action).1,
        (registry.run actions).2 ++
          ((registry.run actions).1.step action).2.toList) := by
  induction actions generalizing registry with
  | nil => simp [run]
  | cons first rest ih => simp [run, ih]

/-
  Exchanges tell what has become of the catalogs, and handles
  lead to catalogs that are there.
-/
structure Tells
    (log : List Exchange)
    (registry : Registry) : Prop where
  handles_lead : ∀ place ∈ registry.handles,
    place < registry.catalogs.length
  exchanges_placed : ∀ exchange ∈ log,
    exchange.place < registry.catalogs.length
  reflects : ∀ (place : Nat) (catalog : Catalog),
    registry.catalogs[place]? = some catalog →
      catalog.Reflects (changesAt place log)

/- A handle leads to a catalog. -/
theorem Tells.exists_catalog
    {log : List Exchange}
    {registry : Registry}
    {handle place : Nat}
    (h : Tells log registry)
    (hHandle : registry.handles[handle]? = some place) :
    ∃ catalog, registry.catalogs[place]? = some catalog :=
  ⟨_, List.getElem?_eq_getElem
    (h.handles_lead place (List.mem_of_getElem? hHandle))⟩

/- A new catalog has not been changed yet. -/
private theorem Tells.create
    {log : List Exchange}
    {registry : Registry}
    (h : Tells log registry) :
    Tells log
      ⟨registry.catalogs ++ [Catalog.empty],
        registry.handles ++ [registry.catalogs.length]⟩ := by
  refine ⟨?_, ?_, ?_⟩
  · intro place hMem
    rw [List.length_append, List.length_singleton]
    rcases List.mem_append.mp hMem with hOld | hNew
    · exact Nat.lt_succ_of_lt (h.handles_lead place hOld)
    · rw [List.mem_singleton.mp hNew]
      exact Nat.lt_succ_self _
  · intro exchange hMem
    rw [List.length_append, List.length_singleton]
    exact Nat.lt_succ_of_lt (h.exchanges_placed exchange hMem)
  · intro place catalog hCatalog
    rcases getElem?_concat_eq_some_iff.mp hCatalog with
      hOld | ⟨rfl, rfl⟩
    · exact h.reflects place catalog hOld
    · rw [changesAt_eq_nil fun exchange hMem =>
        Nat.ne_of_lt (h.exchanges_placed exchange hMem)]
      exact Catalog.reflects_empty

/- A call changes the catalog it goes to, and no other. -/
private theorem Tells.call
    {log : List Exchange}
    {registry : Registry}
    {place : Nat}
    {catalog next : Catalog}
    {call : Catalog.Call}
    {reply : Catalog.Reply}
    (h : Tells log registry)
    (hCatalog : registry.catalogs[place]? = some catalog)
    (hServe : catalog.serve call = (next, reply)) :
    Tells (log ++ [⟨place, call, reply⟩])
      ⟨registry.catalogs.set place next, registry.handles⟩ := by
  have hPlace : place < registry.catalogs.length :=
    (List.getElem?_eq_some_iff.mp hCatalog).1
  refine ⟨?_, ?_, ?_⟩
  · intro other hMem
    rw [List.length_set]
    exact h.handles_lead other hMem
  · intro exchange hMem
    rw [List.length_set]
    rcases List.mem_append.mp hMem with hOld | hNew
    · exact h.exchanges_placed exchange hOld
    · rw [List.mem_singleton.mp hNew]
      exact hPlace
  · intro other found hFound
    rw [changesAt_concat]
    by_cases hSame : place = other
    · subst hSame
      rw [List.getElem?_set_self hPlace] at hFound
      rw [if_pos rfl, ← Option.some.inj hFound]
      exact (h.reflects place catalog hCatalog).serve hServe
    · rw [List.getElem?_set_ne hSame] at hFound
      rw [if_neg hSame, List.append_nil]
      exact h.reflects other found hFound

/- What a call through a handle does. -/
private theorem step_call
    {registry : Registry}
    {handle place : Nat}
    {catalog next : Catalog}
    {call : Catalog.Call}
    {reply : Catalog.Reply}
    (hHandle : registry.handles[handle]? = some place)
    (hCatalog : registry.catalogs[place]? = some catalog)
    (hServe : catalog.serve call = (next, reply)) :
    registry.step (.call handle call) =
      (⟨registry.catalogs.set place next, registry.handles⟩,
        some ⟨place, call, reply⟩) := by
  simp [step, hHandle, hCatalog, hServe]

/- One action keeps the catalogs in step with what is told. -/
theorem Tells.step
    {log : List Exchange}
    {registry : Registry}
    (h : Tells log registry)
    (action : Action) :
    Tells (log ++ (registry.step action).2.toList)
      (registry.step action).1 := by
  cases action with
  | create =>
      rw [Registry.step, Option.toList_none, List.append_nil]
      exact h.create
  | copy handle =>
      cases hHandle : registry.handles[handle]? with
      | none => simpa [Registry.step, hHandle] using h
      | some place =>
          have hMem := List.mem_of_getElem? hHandle
          simp only [Registry.step, hHandle, Option.toList_none,
            List.append_nil]
          refine ⟨?_, h.exchanges_placed, h.reflects⟩
          intro other hOther
          rcases List.mem_append.mp hOther with hOld | hNew
          · exact h.handles_lead other hOld
          · rw [List.mem_singleton.mp hNew]
            exact h.handles_lead place hMem
  | call handle call =>
      cases hHandle : registry.handles[handle]? with
      | none => simpa [Registry.step, hHandle] using h
      | some place =>
          rcases h.exists_catalog hHandle with
            ⟨catalog, hCatalog⟩
          rcases hServe : catalog.serve call with ⟨next, reply⟩
          rw [step_call hHandle hCatalog hServe]
          exact h.call hCatalog hServe

/- So does a run. -/
theorem Tells.run
    {log : List Exchange}
    {registry : Registry}
    (h : Tells log registry)
    (actions : List Action) :
    Tells (log ++ (registry.run actions).2)
      (registry.run actions).1 := by
  induction actions using List.reverseRecOn with
  | nil =>
      rw [Registry.run, List.append_nil]
      exact h
  | append_singleton actions action ih =>
      rw [run_concat, ← List.append_assoc]
      exact ih.step action

/- All along a run the exchanges tell the catalogs. -/
theorem tells_run (actions : List Action) :
    Tells (start.run actions).2 (start.run actions).1 := by
  have hStart : Tells [] start := by
    refine ⟨List.forall_mem_nil _, List.forall_mem_nil _, ?_⟩
    intro place catalog h
    cases h
  exact hStart.run actions

/- No action takes a catalog away. -/
private theorem length_le_step
    (registry : Registry)
    (action : Action) :
    registry.catalogs.length ≤
      (registry.step action).1.catalogs.length := by
  unfold Registry.step
  split
  · simp
  · split <;> simp
  · split
    · simp
    · split <;> simp

/- A catalog stays at its place. -/
theorem exists_catalog_of_run
    {registry : Registry}
    {place : Nat}
    {catalog : Catalog}
    (h : registry.catalogs[place]? = some catalog)
    (actions : List Action) :
    ∃ next,
      (registry.run actions).1.catalogs[place]? = some next := by
  have hLength : registry.catalogs.length ≤
      (registry.run actions).1.catalogs.length := by
    induction actions using List.reverseRecOn with
    | nil => exact Nat.le_refl _
    | append_singleton actions action ih =>
        rw [run_concat]
        exact Nat.le_trans ih (length_le_step _ action)
  have hPlace := (List.getElem?_eq_some_iff.mp h).1
  exact ⟨_, List.getElem?_eq_getElem
    (Nat.lt_of_lt_of_le hPlace hLength)⟩

/-
  After any run each handle leads to a catalog that reflects the
  changes made through all handles that lead there, and one more
  call through the handle is answered as these changes tell.
-/
theorem run_reflects_log
    {actions : List Action}
    {registry : Registry}
    {log : List Exchange}
    {handle place : Nat}
    (hRun : start.run actions = (registry, log))
    (hHandle : registry.handles[handle]? = some place) :
    ∃ catalog,
      registry.catalogs[place]? = some catalog ∧
      catalog.Reflects (changesAt place log) ∧
      ∀ call, ∃ next reply,
        start.run (actions ++ [.call handle call]) =
          (⟨registry.catalogs.set place next,
            registry.handles⟩, log ++ [⟨place, call, reply⟩]) ∧
        catalog.Answers (changesAt place log) call next reply ∧
        next.Reflects
          (changesAt place (log ++ [⟨place, call, reply⟩])) := by
  have hTells := tells_run actions
  rw [hRun] at hTells
  rcases hTells.exists_catalog hHandle with ⟨catalog, hCatalog⟩
  have hReflects := hTells.reflects place catalog hCatalog
  refine ⟨catalog, hCatalog, hReflects, ?_⟩
  intro call
  rcases hServe : catalog.serve call with ⟨next, reply⟩
  refine ⟨next, reply, ?_,
    Catalog.answers_of_serve hReflects hServe, ?_⟩
  · rw [run_concat, hRun, step_call hHandle hCatalog hServe]
    rfl
  · rw [changesAt_concat, if_pos rfl]
    exact hReflects.serve hServe

/-
  Rooms are added through a copy of the first handle and taken
  out through the first handle itself, and meanwhile rooms are
  added to another catalog under the same id.
-/
theorem run_reflects_log_rooms :
    let actions : List Action :=
      [.create, .copy 0, .call 1 (.add "rooms" .rooms []),
        .create, .call 2 (.add "rooms" .rooms []),
        .call 0 (.remove "rooms"), .call 1 (.remove "rooms")]
    let registry := (start.run actions).1
    let log := (start.run actions).2
    registry.handles = [0, 0, 1] ∧
      log.map Exchange.reply =
        [.ids ["rooms"], .ids ["rooms"], .removed "rooms",
          .failed (.dataSetNotFound "rooms")] ∧
      changesAt 0 log =
        [.addition ⟨"rooms", .rooms, []⟩, .removal "rooms"] ∧
      ∃ catalog, registry.catalogs[0]? = some catalog ∧
        catalog.Reflects (changesAt 0 log) ∧
        catalog.Answers (changesAt 0 log) (.get "rooms")
          catalog (.found none) := by
  intro actions registry log
  have hHandles : registry.handles = [0, 0, 1] := by
    decide +kernel
  have hHandle : registry.handles[1]? = some 0 := by
    rw [hHandles]
    rfl
  have hChanges : changesAt 0 log =
      [.addition ⟨"rooms", .rooms, []⟩, .removal "rooms"] := by
    decide +kernel
  refine ⟨hHandles, by decide +kernel, hChanges, ?_⟩
  have hRun : start.run actions = (registry, log) := rfl
  rcases run_reflects_log hRun hHandle with
    ⟨catalog, hCatalog, hReflects, hCalls⟩
  refine ⟨catalog, hCatalog, hReflects, ?_⟩
  rcases hCalls (.get "rooms") with
    ⟨next, reply, -, hAnswers, -⟩
  rcases hAnswers.get "rooms" rfl with ⟨rfl, rfl⟩
  have hLast : Catalog.lastOf "rooms" (changesAt 0 log) =
      none := by
    rw [hChanges]
    decide +kernel
  rwa [hLast] at hAnswers

end Registry

end Registrar
