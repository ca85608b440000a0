import Mathlib.Data.List.Forall2
import Mathlib.Data.List.Induction
import Registrar.Directory

/-
  This file proves facts on lists that the definitions of the
  registrar run through: steps that can fail, entries named
  once, and directories that hold the same entries.

  Main statements:
    * `bind_eq_ok_iff`
    * `mapM_eq_ok_iff`
    * `mapM_eq_error_iff`
    * `exists_forall₂_iff`
    * `exists_eq_map_iff`
    * `mapM_eq_some_iff`
    * `rel_mapM`
    * `map_eq_map_of_forall₂`
    * `eraseDups_concat`
    * `nodup_eraseDups`
    * `idxOf?_eq_of_nodup`
    * `Directory.ext_of_ascending`
    * `Directory.eq_of_unexpected?_eq_none`
-/

------------------------------------------------------------
-- Steps That Can Fail
------------------------------------------------------------

namespace Registrar

variable {ε α β : Type}

/- After a step that succeeds comes the next one. -/
@[simp] theorem ok_bind
    (a : α)
    (f : α → Except ε β) :
    (Except.ok a >>= f) = f a := rfl

/- After a step that fails comes none. -/
@[simp] theorem error_bind
    (e : ε)
    (f : α → Except ε β) :
    (Except.error e >>= f) = .error e := rfl

/- Two steps succeed if both do, one after the other. -/
theorem bind_eq_ok_iff
    {x : Except ε α}
    {f : α → Except ε β}
    {b : β} :
    (x >>= f) = .ok b ↔ ∃ a, x = .ok a ∧ f a = .ok b := by
  cases x with
  | error e => simp [bind, Except.bind]
  | ok a => simp [bind, Except.bind]

/- Of two steps the first one fails, or the second after it. -/
theorem bind_eq_error_iff
    {x : Except ε α}
    {f : α → Except ε β}
    {e : ε} :
    (x >>= f) = .error e ↔
      x = .error e ∨ ∃ a, x = .ok a ∧ f a = .error e := by
  cases x with
  | error e => simp [bind, Except.bind]
  | ok a => simp [bind, Except.bind]

/- What is made of the value of a step does not fail. -/
theorem bind_pure_eq_error_iff
    {x : Except ε α}
    {g : α → β}
    {e : ε} :
    (x >>= fun a => pure (g a)) = .error e ↔ x = .error e := by
  cases x with
  | error e => simp
  | ok a => simp [pure, Except.pure]

/- A step has a value exactly if it succeeds with it. -/
theorem toOption_eq_some_iff
    {x : Except ε α}
    {a : α} :
    x.toOption = some a ↔ x = .ok a := by
  cases x <;> simp [Except.toOption]

/- Whether a step succeeds can be decided. -/
theorem exists_eq_ok_iff
    {x : Except ε α} :
    x.toOption.isSome = true ↔ ∃ a, x = .ok a := by
  simp only [Option.isSome_iff_exists, toOption_eq_some_iff]

/- A list is worked off if each of its items is. -/
theorem mapM_eq_ok_iff
    {f : α → Except ε β}
    {xs : List α}
    {ys : List β} :
    xs.mapM f = .ok ys ↔
      List.Forall₂ (fun x y => f x = .ok y) xs ys := by
  induction xs generalizing ys with
  | nil => cases ys <;> simp [pure, Except.pure]
  | cons x xs ih =>
      rw [List.mapM_cons, bind_eq_ok_iff]
      constructor
      · rintro ⟨y, hHead, hTail⟩
        rcases bind_eq_ok_iff.mp hTail with ⟨rest, hRest, hEq⟩
        cases hEq
        exact .cons hHead (ih.mp hRest)
      · intro h
        cases h with
        | cons hHead hTail =>
            refine ⟨_, hHead, bind_eq_ok_iff.mpr ?_⟩
            exact ⟨_, ih.mpr hTail, rfl⟩

/- A list fails as the first of its items does that fails. -/
theorem mapM_eq_error_iff
    {f : α → Except ε β}
    {xs : List α}
    {e : ε} :
    xs.mapM f = .error e ↔
      ∃ before x after, xs = before ++ x :: after ∧
        (∀ y ∈ before, ∃ z, f y = .ok z) ∧ f x = .error e := by
  induction xs with
  | nil => simp [pure, Except.pure]
  | cons x xs ih =>
      rw [List.mapM_cons, bind_eq_error_iff]
      constructor
      · rintro (hHead | ⟨z, hHead, hTail⟩)
        · exact ⟨[], x, xs, rfl, List.forall_mem_nil _, hHead⟩
        · rcases ih.mp (bind_pure_eq_error_iff.mp hTail) with
            ⟨before, y, after, rfl, hBefore, hFails⟩
          exact ⟨x :: before, y, after, rfl,
            List.forall_mem_cons.mpr ⟨⟨z, hHead⟩, hBefore⟩,
            hFails⟩
      · rintro ⟨before, y, after, hEq, hBefore, hFails⟩
        cases before with
        | nil =>
            cases hEq
            exact .inl hFails
        | cons first before =>
            cases hEq
            rcases List.forall_mem_cons.mp hBefore with
              ⟨⟨z, hHead⟩, hLater⟩
            refine .inr ⟨z, hHead, bind_pure_eq_error_iff.mpr ?_⟩
            exact ih.mpr ⟨before, y, after, rfl, hLater, hFails⟩

/-
  If what a step yields tells what it was made from, a list
  that is worked off tells so as well.
-/
theorem mapM_eq_ok_iff_map
    {f : α → Except ε β}
    {g : β → α}
    {P : β → Prop}
    (h : ∀ x y, f x = .ok y ↔ x = g y ∧ P y)
    {xs : List α}
    {ys : List β} :
    xs.mapM f = .ok ys ↔ xs = ys.map g ∧ ∀ y ∈ ys, P y := by
  rw [mapM_eq_ok_iff]
  simp only [h]
  constructor
  · intro hAll
    induction hAll with
    | nil => exact ⟨rfl, List.forall_mem_nil _⟩
    | cons hHead _ ih =>
        rw [hHead.1, ih.1, List.map_cons]
        exact ⟨rfl, List.forall_mem_cons.mpr ⟨hHead.2, ih.2⟩⟩
  · rintro ⟨rfl, hAll⟩
    rw [List.forall₂_map_left_iff, List.forall₂_same]
    exact fun y hMem => ⟨rfl, hAll y hMem⟩

/- All items have partners if each of them has one. -/
theorem exists_forall₂_iff
    {R : α → β → Prop}
    {xs : List α} :
    (∃ ys, List.Forall₂ R xs ys) ↔ ∀ x ∈ xs, ∃ y, R x y := by
  induction xs with
  | nil => simp
  | cons x xs ih =>
      rw [List.forall_mem_cons, ← ih]
      constructor
      · rintro ⟨_, h⟩
        cases h with
        | cons hHead hTail => exact ⟨⟨_, hHead⟩, ⟨_, hTail⟩⟩
      · rintro ⟨⟨y, hHead⟩, ⟨ys, hTail⟩⟩
        exact ⟨y :: ys, .cons hHead hTail⟩

/- A list can be worked off if each of its items can. -/
theorem exists_mapM_eq_ok_iff
    {f : α → Except ε β}
    {xs : List α} :
    (∃ ys, xs.mapM f = .ok ys) ↔
      ∀ x ∈ xs, ∃ y, f x = .ok y := by
  simp only [mapM_eq_ok_iff]
  exact exists_forall₂_iff

/- A list is made of items if each of its items is. -/
theorem exists_eq_map_iff
    {g : β → α}
    {P : β → Prop}
    {xs : List α} :
    (∃ ys : List β, xs = ys.map g ∧ ∀ y ∈ ys, P y) ↔
      ∀ x ∈ xs, ∃ y, x = g y ∧ P y := by
  constructor
  · rintro ⟨ys, rfl, h⟩
    exact List.forall_mem_map.mpr fun y hMem =>
      ⟨y, rfl, h y hMem⟩
  · intro h
    induction xs with
    | nil => exact ⟨[], rfl, List.forall_mem_nil _⟩
    | cons x xs ih =>
        rcases List.forall_mem_cons.mp h with
          ⟨⟨y, rfl, hFirst⟩, hLater⟩
        rcases ih hLater with ⟨ys, rfl, hRest⟩
        exact ⟨y :: ys, rfl,
          List.forall_mem_cons.mpr ⟨hFirst, hRest⟩⟩

/- An item on the left has a partner on the right. -/
theorem exists_right_of_forall₂
    {R : α → β → Prop}
    {xs : List α}
    {ys : List β}
    (h : List.Forall₂ R xs ys)
    {x : α}
    (hMem : x ∈ xs) :
    ∃ y ∈ ys, R x y := by
  induction h with
  | nil => cases hMem
  | @cons x' y xs ys hHead _ ih =>
      rcases List.mem_cons.mp hMem with hEq | hRest
      · subst hEq
        exact ⟨y, List.mem_cons_self, hHead⟩
      · rcases ih hRest with ⟨y', hMem', hRel⟩
        exact ⟨y', List.mem_cons_of_mem _ hMem', hRel⟩

/- An item on the right has a partner on the left. -/
theorem exists_left_of_forall₂
    {R : α → β → Prop}
    {xs : List α}
    {ys : List β}
    (h : List.Forall₂ R xs ys)
    {y : β}
    (hMem : y ∈ ys) :
    ∃ x ∈ xs, R x y :=
  exists_right_of_forall₂ h.flip hMem

/- Partners are items of their lists. -/
theorem forall₂_with_mem
    {R : α → β → Prop}
    {xs : List α}
    {ys : List β}
    (h : List.Forall₂ R xs ys) :
    List.Forall₂ (fun x y => x ∈ xs ∧ y ∈ ys ∧ R x y) xs ys := by
  rw [List.forall₂_iff_zip] at h ⊢
  refine ⟨h.1, fun hMem => ?_⟩
  rcases List.of_mem_zip hMem with ⟨hLeft, hRight⟩
  exact ⟨hLeft, hRight, h.2 hMem⟩

/- Items with partners on both sides, one by one. -/
theorem forall₂_comp
    {γ : Type}
    {R : α → β → Prop}
    {S : β → γ → Prop}
    {xs : List α}
    {ys : List β}
    {zs : List γ}
    (h : List.Forall₂ R xs ys)
    (hNext : List.Forall₂ S ys zs) :
    List.Forall₂ (fun x z => ∃ y, R x y ∧ S y z) xs zs := by
  induction h generalizing zs with
  | nil =>
      cases hNext
      exact .nil
  | cons hHead _ ih =>
      cases hNext with
      | cons hFirst hRest =>
          exact .cons ⟨_, hHead, hFirst⟩ (ih hRest)

/- Items that are made into the same, one by one. -/
theorem map_eq_map_of_forall₂
    {γ : Type}
    {f : α → γ}
    {g : β → γ}
    {xs : List α}
    {ys : List β}
    (h : List.Forall₂ (fun x y => f x = g y) xs ys) :
    xs.map f = ys.map g := by
  induction h with
  | nil => rfl
  | cons hHead _ ih => rw [List.map_cons, List.map_cons, hHead, ih]

/- Lists whose items are worked off alike are so as wholes. -/
theorem mapM_eq_mapM_of_forall₂
    {γ : Type}
    {m : Type → Type}
    [Monad m] [LawfulMonad m]
    {f : α → m γ}
    {g : β → m γ}
    {xs : List α}
    {ys : List β}
    (h : List.Forall₂ (fun x y => f x = g y) xs ys) :
    xs.mapM f = ys.mapM g := by
  have hMap := congrArg (List.mapM id) (map_eq_map_of_forall₂ h)
  simpa only [List.mapM_map, Function.id_comp] using hMap

/- A list has values throughout if each of its items has. -/
theorem mapM_eq_some_iff
    {f : α → Option β}
    {xs : List α}
    {ys : List β} :
    xs.mapM f = some ys ↔
      List.Forall₂ (fun x y => f x = some y) xs ys := by
  induction xs generalizing ys with
  | nil => cases ys <;> simp
  | cons x xs ih =>
      rw [List.mapM_cons, Option.bind_eq_bind,
        Option.bind_eq_some_iff]
      constructor
      · rintro ⟨y, hHead, hTail⟩
        rcases Option.bind_eq_some_iff.mp hTail with
          ⟨rest, hRest, hEq⟩
        cases hEq
        exact .cons hHead (ih.mp hRest)
      · intro h
        cases h with
        | cons hHead hTail =>
            refine ⟨_, hHead, Option.bind_eq_some_iff.mpr ?_⟩
            exact ⟨_, ih.mpr hTail, rfl⟩

/- A list has values throughout exactly if each item has. -/
theorem isSome_mapM_iff
    {f : α → Option β}
    {xs : List α} :
    (xs.mapM f).isSome ↔ ∀ x ∈ xs, (f x).isSome := by
  simp only [Option.isSome_iff_exists, mapM_eq_some_iff]
  exact exists_forall₂_iff

/- Two lists of values are related if they are one by one. -/
theorem rel_mapM
    {γ : Type}
    {R : β → γ → Prop}
    {f : α → Option β}
    {g : α → Option γ}
    {xs : List α}
    (h : ∀ x ∈ xs, Option.Rel R (f x) (g x)) :
    Option.Rel (List.Forall₂ R) (xs.mapM f) (xs.mapM g) := by
  induction xs with
  | nil => exact .some .nil
  | cons x xs ih =>
      rcases List.forall_mem_cons.mp h with ⟨hHead, hTail⟩
      have hRest := ih hTail
      rw [List.mapM_cons, List.mapM_cons]
      generalize f x = first, g x = other at hHead ⊢
      generalize xs.mapM f = rest, xs.mapM g = others at hRest ⊢
      cases hHead with
      | none => exact .none
      | some hFirst =>
          cases hRest with
          | none => exact .none
          | some hLater => exact .some (.cons hFirst hLater)

/- Checks on all items of a list succeed together. -/
theorem forM_eq_ok_iff
    {f : α → Except ε Unit}
    {xs : List α} :
    xs.forM f = .ok () ↔ ∀ x ∈ xs, f x = .ok () := by
  induction xs with
  | nil => simp [pure, Except.pure]
  | cons x xs ih =>
      rw [List.forall_mem_cons, ← ih]
      apply bind_eq_ok_iff.trans
      constructor
      · rintro ⟨⟨⟩, hHead, hTail⟩
        exact ⟨hHead, hTail⟩
      · rintro ⟨hHead, hTail⟩
        exact ⟨(), hHead, hTail⟩

------------------------------------------------------------
-- Items Named Once
------------------------------------------------------------

/- What is looked up stands under its name. -/
theorem mem_of_lookup_eq_some
    [BEq α] [LawfulBEq α]
    {pairs : List (α × β)}
    {a : α}
    {b : β}
    (h : pairs.lookup a = some b) :
    (a, b) ∈ pairs := by
  rcases List.lookup_eq_some_iff.mp h with ⟨front, back, hEq, -⟩
  rw [hEq]
  exact List.mem_append_right _ List.mem_cons_self

/- An item behind others is one of these or the last one. -/
theorem getElem?_concat_eq_some_iff
    {xs : List α}
    {x y : α}
    {i : Nat} :
    (xs ++ [x])[i]? = some y ↔
      xs[i]? = some y ∨ i = xs.length ∧ x = y := by
  rw [List.getElem?_append]
  split
  · next hLess =>
      have hNe : i ≠ xs.length := Nat.ne_of_lt hLess
      simp [hNe]
  · next hNot =>
      have hNone : xs[i]? = none :=
        List.getElem?_eq_none (Nat.not_lt.mp hNot)
      rw [hNone, List.getElem?_singleton]
      split
      · next hZero =>
          have hEq : i = xs.length := by omega
          simp [hEq]
      · next hPos =>
          have hNe : i ≠ xs.length := by omega
          simp [hNe]

/- One more item is kept if it is new. -/
theorem eraseDups_concat
    [BEq α] [LawfulBEq α]
    (xs : List α)
    (x : α) :
    (xs ++ [x]).eraseDups =
      if x ∈ xs then xs.eraseDups
      else xs.eraseDups ++ [x] := by
  rw [List.eraseDups_append]
  by_cases hMem : x ∈ xs <;>
    simp [List.removeAll, hMem, List.eraseDups_cons]

/- No item is left twice. -/
theorem nodup_eraseDups
    [BEq α] [LawfulBEq α]
    (xs : List α) :
    xs.eraseDups.Nodup := by
  induction xs using List.reverseRecOn with
  | nil => exact List.nodup_nil
  | append_singleton xs x ih =>
      rw [eraseDups_concat]
      split
      · exact ih
      · next hNew =>
          apply List.nodup_append.mpr
          refine ⟨ih, List.pairwise_singleton _ x, ?_⟩
          intro y hOld z hLast hEq
          rw [List.mem_singleton.mp hLast] at hEq
          exact hNew (hEq ▸ List.mem_eraseDups.mp hOld)

/- Items of one sort are told apart as all items are. -/
theorem filter_eraseDups
    [BEq α] [LawfulBEq α]
    (p : α → Bool)
    (xs : List α) :
    xs.eraseDups.filter p = (xs.filter p).eraseDups := by
  induction xs using List.reverseRecOn with
  | nil => rfl
  | append_singleton xs x ih =>
      rw [eraseDups_concat, List.filter_append]
      cases hKept : p x with
      | true =>
          have hLast : [x].filter p = [x] := by simp [hKept]
          rw [hLast, eraseDups_concat, ← ih]
          by_cases hMem : x ∈ xs <;>
            simp [hMem, hKept, List.filter_append]
      | false =>
          have hLast : [x].filter p = [] := by simp [hKept]
          rw [hLast, List.append_nil, ← ih]
          by_cases hMem : x ∈ xs <;>
            simp [hMem, hKept, List.filter_append]

/- Items that stay different are told apart as before. -/
theorem eraseDups_map_of_injective
    [BEq α] [LawfulBEq α]
    [BEq β] [LawfulBEq β]
    {f : α → β}
    (hInjective : ∀ x y, f x = f y → x = y)
    (xs : List α) :
    (xs.map f).eraseDups = xs.eraseDups.map f := by
  induction xs using List.reverseRecOn with
  | nil => rfl
  | append_singleton xs x ih =>
      have hMem : f x ∈ xs.map f ↔ x ∈ xs := by
        rw [List.mem_map]
        constructor
        · rintro ⟨y, hY, hEq⟩
          exact hInjective y x hEq ▸ hY
        · exact fun hX => ⟨x, hX, rfl⟩
      rw [List.map_append, List.map_singleton, eraseDups_concat,
        eraseDups_concat, ih]
      by_cases hOld : x ∈ xs
      · rw [if_pos (hMem.mpr hOld), if_pos hOld]
      · rw [if_neg (mt hMem.mp hOld), if_neg hOld,
          List.map_append, List.map_singleton]

/- Items that are named once are left as they are. -/
theorem eraseDups_of_nodup
    [BEq α] [LawfulBEq α]
    {xs : List α}
    (h : xs.Nodup) :
    xs.eraseDups = xs := by
  induction xs with
  | nil => rfl
  | cons x xs ih =>
      rcases List.nodup_cons.mp h with ⟨hHead, hTail⟩
      have hKeep : xs.filter (fun y => !y == x) = xs := by
        apply List.filter_eq_self.mpr
        intro y hMem
        have hNe : y ≠ x := fun hEq => hHead (hEq ▸ hMem)
        simpa using hNe
      rw [List.eraseDups_cons, hKeep, ih hTail]

/- An item that is named once is found where it stands. -/
theorem idxOf?_eq_of_nodup
    [BEq α] [LawfulBEq α]
    {xs : List α}
    {x : α}
    {place : Nat}
    (h : xs.Nodup)
    (hPlace : xs[place]? = some x) :
    xs.idxOf? x = some place := by
  rcases List.getElem?_eq_some_iff.mp hPlace with ⟨hLess, rfl⟩
  refine List.idxOf?_eq_some_iff.mpr ⟨hLess, rfl, ?_⟩
  intro earlier hEarlier
  exact List.pairwise_iff_getElem.mp h earlier place _ hLess
    hEarlier

end Registrar

------------------------------------------------------------
-- Directories With The Same Entries
------------------------------------------------------------

namespace Registrar

namespace Directory

variable {α : Type}

/- What is found is one of the entries. -/
theorem mem_of_find?
    {name : String}
    {entry : α}
    {d : Directory α}
    (h : find? name d = some entry) :
    (name, entry) ∈ d := by
  induction d with
  | nil => cases h
  | cons head rest ih =>
      rcases head with ⟨other, old⟩
      by_cases hEq : other = name
      · simp_all [find?]
      · have hRest : find? name rest = some entry := by
          simpa [find?, hEq] using h
        exact List.mem_cons_of_mem _ (ih hRest)

/- Of entries in any order, the last one is found. -/
theorem find?_ofEntries
    (name : String)
    (entries : List (String × α)) :
    find? name (ofEntries entries) =
      entries.reverse.lookup name := by
  induction entries using List.reverseRecOn with
  | nil => rfl
  | append_singleton entries entry ih =>
      rcases entry with ⟨other, x⟩
      have hStep : ofEntries (entries ++ [(other, x)]) =
          insert other x (ofEntries entries) := by
        simp [ofEntries]
      rw [hStep, List.reverse_concat, List.lookup_cons]
      by_cases hEq : name = other
      · subst hEq
        simp [find?_insert_self]
      · rw [find?_insert_of_ne hEq,
          beq_eq_false_iff_ne.mpr hEq, ih]

/- A directory holds none but the entries put in. -/
theorem mem_of_mem_ofEntries
    {entries : List (String × α)}
    {entry : String × α}
    (hMem : entry ∈ ofEntries entries) :
    entry ∈ entries := by
  have hInsert :
      ∀ {name : String} {x : α} {d : Directory α},
        entry ∈ insert name x d →
          entry = (name, x) ∨ entry ∈ d := by
    intro name x d h
    induction d with
    | nil => exact .inl (List.mem_singleton.mp h)
    | cons head rest ih =>
        rcases head with ⟨other, old⟩
        unfold insert at h
        split at h
        · exact List.mem_cons.mp h
        · split at h
          · rcases List.mem_cons.mp h with hEq | hRest
            · exact .inl hEq
            · exact .inr (List.mem_cons_of_mem _ hRest)
          · rcases List.mem_cons.mp h with hEq | hRest
            · exact .inr (hEq ▸ List.mem_cons_self)
            · exact (ih hRest).imp_right
                (List.mem_cons_of_mem _)
  induction entries using List.reverseRecOn with
  | nil => cases hMem
  | append_singleton entries last ih =>
      have hStep : ofEntries (entries ++ [last]) =
          insert last.1 last.2 (ofEntries entries) := by
        simp [ofEntries]
      rw [hStep] at hMem
      rcases hInsert hMem with hEq | hOld
      · exact List.mem_append_right _ (hEq ▸ List.mem_cons_self)
      · exact List.mem_append_left _ (ih hOld)

/- An entry above all others is added at the end. -/
theorem insert_above
    {name : String}
    {entry : α}
    {d : Directory α}
    (h : ∀ other ∈ d.names, other < name) :
    insert name entry d = d ++ [(name, entry)] := by
  induction d with
  | nil => rfl
  | cons head rest ih =>
      rcases head with ⟨other, old⟩
      rcases List.forall_mem_cons.mp h with ⟨hHead, hRest⟩
      have hNotBelow : ¬ name < other := fun hBelow =>
        String.lt_irrefl _ (String.lt_trans hHead hBelow)
      have hNe : name ≠ other := fun hEq =>
        String.lt_irrefl _ (hEq ▸ hHead)
      unfold insert
      rw [if_neg hNotBelow, if_neg hNe, ih hRest]
      rfl

/- A directory is made of its own entries. -/
theorem ofEntries_of_ascending
    {d : Directory α}
    (h : d.Ascending) :
    ofEntries d = d := by
  induction d using List.reverseRecOn with
  | nil => rfl
  | append_singleton d entry ih =>
      have hStep : ofEntries (d ++ [entry]) =
          insert entry.1 entry.2 (ofEntries d) := by
        simp [ofEntries]
      unfold Ascending names at h
      rw [List.map_append, List.pairwise_append] at h
      rcases h with ⟨hBefore, -, hAbove⟩
      rw [hStep, ih hBefore]
      apply insert_above
      intro other hMem
      exact hAbove other hMem entry.1 List.mem_cons_self

/- In a directory, each entry is found under its name. -/
theorem find?_eq_some_iff_mem
    {name : String}
    {entry : α}
    {d : Directory α}
    (h : d.Ascending) :
    find? name d = some entry ↔ (name, entry) ∈ d := by
  induction d with
  | nil => simp [find?]
  | cons head rest ih =>
      rcases head with ⟨other, old⟩
      rcases List.pairwise_cons.mp h with ⟨hAbove, hRest⟩
      by_cases hEq : other = name
      · subst hEq
        have hNotMem : (other, entry) ∉ rest := fun hMem =>
          String.lt_irrefl other
            (hAbove other (List.mem_map_of_mem hMem))
        simp [find?, hNotMem, eq_comm]
      · have hNe : ¬ name = other := fun hBack =>
          hEq hBack.symm
        simp [find?, hEq, hNe, ih hRest]

/- Directories in which the same is found are the same. -/
theorem ext_of_ascending
    {d e : Directory α}
    (hLeft : d.Ascending)
    (hRight : e.Ascending)
    (h : ∀ name, find? name d = find? name e) :
    d = e := by
  have hNodup : ∀ {x : Directory α}, x.Ascending →
      x.Nodup := by
    intro x hAscending
    apply (List.pairwise_map.mp hAscending).imp
    intro a b hLess hEq
    exact String.lt_irrefl a.1 (hEq ▸ hLess)
  have hPerm : d.Perm e := by
    rw [List.perm_ext_iff_of_nodup (hNodup hLeft)
      (hNodup hRight)]
    rintro ⟨name, entry⟩
    rw [← find?_eq_some_iff_mem hLeft,
      ← find?_eq_some_iff_mem hRight, h name]
  apply List.Perm.eq_of_pairwise ?_
    (List.pairwise_map.mp hLeft)
    (List.pairwise_map.mp hRight) hPerm
  intro a b _ _ hLess hBack
  exact absurd (String.lt_trans hLess hBack)
    (String.lt_irrefl a.1)

/- The entries of a directory under some names. -/
def entriesOf
    (names : List String)
    (d : Directory α) : Directory α :=
  names.filterMap fun name =>
    (find? name d).map fun entry => (name, entry)

private theorem find?_entriesOf
    {names : List String}
    {d : Directory α}
    (name : String) :
    find? name (entriesOf names d) =
      if name ∈ names then find? name d else none := by
  induction names with
  | nil => rfl
  | cons first rest ih =>
      unfold entriesOf at ih ⊢
      cases hFirst : find? first d with
      | none =>
          rw [List.filterMap_cons_none (by simp [hFirst]), ih]
          by_cases hEq : name = first
          · subst hEq
            simp [hFirst]
          · simp [hEq]
      | some entry =>
          rw [List.filterMap_cons_some (b := (first, entry))
            (by simp [hFirst])]
          by_cases hEq : first = name
          · subst hEq
            simp [find?, hFirst]
          · have hNe : ¬ name = first := fun hBack =>
              hEq hBack.symm
            simp [find?, hEq, hNe, ih]

private theorem names_entriesOf_sublist
    (names : List String)
    (d : Directory α) :
    (Directory.names (entriesOf names d)).Sublist names := by
  induction names with
  | nil => exact List.Sublist.refl _
  | cons first rest ih =>
      unfold entriesOf at ih ⊢
      cases hFirst : find? first d with
      | none =>
          rw [List.filterMap_cons_none (by simp [hFirst])]
          exact ih.cons first
      | some entry =>
          rw [List.filterMap_cons_some (b := (first, entry))
            (by simp [hFirst])]
          exact ih.cons_cons first

/-
  A directory without unexpected names consists of its entries
  under the names allowed.
-/
theorem eq_of_unexpected?_eq_none
    {allowed : List String}
    {d : Directory α}
    (hAscending : d.Ascending)
    (hAllowed : allowed.Pairwise (· < ·))
    (h : d.unexpected? allowed = none) :
    d = entriesOf allowed d := by
  apply ext_of_ascending hAscending
    (hAllowed.sublist (names_entriesOf_sublist allowed d))
  intro name
  rw [find?_entriesOf]
  split
  · rfl
  · next hNot =>
      have hAbsent : name ∉ d.names := by
        intro hMem
        have hFound := List.find?_eq_none.mp h name hMem
        simp [hNot] at hFound
      have hNone : ¬ (find? name d).isSome := by
        rw [find?_isSome_iff]
        exact hAbsent
      simpa using hNone

end Directory

end Registrar
