import Registrar.Proofs.Answer.Agreement
import Registrar.Proofs.Answer.Typing
import Registrar.Proofs.Permutations
import Registrar.Proofs.Query.WellFormed

/-
  This file proves that the rows of a query do not depend on the
  order of the records, except for their own order.

  Classes come in another order, members too, and another member
  may be the first one, whose key values are shown.  But members
  of a class agree on the keys, and a maximum, a minimum and a
  count are the same in any order, up to the sign of zero.

  Key definitions include:
    * `Query.IgnoresOrder`
    * `Source.AgreesOn`
    * `Row.Agrees`

  Main statements:
    * `classes_perm`
    * `Source.agreesOn_of_summarize`
    * `Query.sources_of_perm`
    * `Query.unordered_of_perm`
-/

------------------------------------------------------------
-- Classes
------------------------------------------------------------

namespace Registrar

variable {retry : Decimal.Conversion}

/- Records in another order make the same classes in another. -/
theorem classes_perm
    {first second : List Record}
    (keys : List Key)
    (h : first.Perm second) :
    PermUpTo List.Perm (classes keys first)
      (classes keys second) := by
  rw [classes_eq, classes_eq]
  refine ⟨(identitiesOf keys second).map (sharing keys first),
    ?_, ?_⟩
  · exact (eraseDups_perm (h.map (identityIn keys))).map _
  · rw [List.forall₂_map_left_iff, List.forall₂_map_right_iff]
    exact List.forall₂_same.mpr fun _ _ => h.filter _

------------------------------------------------------------
-- Queries That Ignore The Order
------------------------------------------------------------

/- A query of which all rules take extremes or counts. -/
def Query.IgnoresOrder (query : Query) : Prop :=
  ∀ grouping ∈ query.grouping, ∀ rule ∈ grouping.rules,
    rule.aggregate ∈ [Aggregate.max, .min, .count]

/- Such rules yield numbers for records of numbers. -/
theorem Query.staysNumeric_of_ignoresOrder
    {query : Query}
    {records : List Record}
    (hRules : query.IgnoresOrder)
    (hNumbers : ∀ record ∈ records, record.WithoutNan) :
    query.StaysNumeric retry records where
  withoutNan := hNumbers
  not_isNan_evaluate := by
    intro grouping hGrouping rule hRule members hSublist _ x h
    apply AppliedRule.not_isNan_evaluate_of_withoutNan
      (hRules grouping hGrouping rule hRule) ?_ h
    exact fun record hMem =>
      hNumbers record (hSublist.subset hMem)

------------------------------------------------------------
-- Sources That Agree
------------------------------------------------------------

namespace Source

/- Two sources agree on what several columns show. -/
def AgreesOn
    (columns : List Column)
    (s t : Source) : Prop :=
  ∀ column ∈ columns,
    Value.Agree (s.value? column) (t.value? column)

variable {columns : List Column}

/- A record agrees with itself, unless it holds NaN. -/
theorem agreesOn_record
    {r : Record}
    (h : r.WithoutNan) :
    AgreesOn columns (.record r) (.record r) := by
  intro column _
  cases column with
  | applied name => trivial
  | stored key =>
      apply Value.Agree.filter
      apply Value.agree_self
      exact fun value hGet =>
        h value (Record.mem_values_of_get? hGet)

/-
  The summaries of a class and of its members in another order
  agree, if both first members agree on the keys.
-/
theorem agreesOn_of_describes
    {grouping : Grouping}
    {members others : List Record}
    {first other : Record}
    {s t : Summary}
    (hRules : ∀ rule ∈ grouping.rules,
      rule.aggregate ∈ [Aggregate.max, .min, .count])
    (hShown : ∀ key, .stored key ∈ columns →
      key ∈ grouping.keys)
    (hNumbers : ∀ record ∈ members, record.WithoutNan)
    (hPerm : members.Perm others)
    (hFirst : first ∈ members.head?)
    (hOther : other ∈ others.head?)
    (hAgree : Record.AgreesOn grouping.keys first other)
    (hLeft : grouping.Describes retry members s)
    (hRight : grouping.Describes retry others t) :
    AgreesOn columns (.summary s) (.summary t) := by
  intro column hColumn
  cases column with
  | stored key =>
      have hKey := hShown key hColumn
      apply Value.Agree.filter
      change Value.Agree (s.get? key.field) (t.get? key.field)
      rw [hLeft.get?_eq first hFirst key hKey,
        hRight.get?_eq other hOther key hKey]
      exact hAgree key hKey
  | applied name =>
      change Value.Agree ((s.applied? name).map Value.number)
        ((t.applied? name).map Value.number)
      rw [hLeft.applied?_eq, hRight.applied?_eq]
      cases hRule : grouping.rule? name with
      | none => trivial
      | some rule =>
          have hMem := (Grouping.mem_of_rule? hRule).1
          rcases hLeft.evaluate_eq_ok rule hMem with ⟨x, hX⟩
          rcases AppliedRule.evaluate_of_perm
              (hRules rule hMem) hPerm hX with
            ⟨y, hY, hRank⟩
          have hNe := AppliedRule.not_isNan_evaluate_of_withoutNan
            (hRules rule hMem) hNumbers hX
          simp only [Option.bind_some, hX, hY, Except.toOption,
            Option.map_some]
          exact (Binary64.isSame_iff_rank_eq hNe).mpr hRank

/-
  If a class has a summary, its members in another order have
  one that agrees.
-/
theorem agreesOn_of_summarize
    {grouping : Grouping}
    {records members others : List Record}
    {s : Summary}
    (hRules : ∀ rule ∈ grouping.rules,
      rule.aggregate ∈ [Aggregate.max, .min, .count])
    (hShown : ∀ key, .stored key ∈ columns →
      key ∈ grouping.keys)
    (hNumbers : ∀ record ∈ records, record.WithoutNan)
    (hClass : members ∈ classes grouping.keys records)
    (hPerm : members.Perm others)
    (h : grouping.summarize retry members = .ok s) :
    ∃ t, grouping.summarize retry others = .ok t ∧
      AgreesOn columns (.summary s) (.summary t) := by
  have hLeft := Grouping.describes_of_summarize h
  obtain ⟨t, hT⟩ : ∃ t, grouping.summarize retry others = .ok t := by
    apply Grouping.exists_summarize_iff.mpr
    intro rule hRule
    rcases hLeft.evaluate_eq_ok rule hRule with ⟨x, hX⟩
    rcases AppliedRule.evaluate_of_perm (hRules rule hRule)
        hPerm hX with
      ⟨y, hY, -⟩
    exact ⟨y, hY⟩
  have hMembers : ∀ record ∈ members, record.WithoutNan :=
    fun record hMem => hNumbers record
      ((sublist_of_mem_classes hClass).subset hMem)
  -- Another member may come first now, but it shares the keys.
  have hNe := ne_nil_of_mem_classes hClass
  have hOthersNe : others ≠ [] := fun hNil =>
    hNe ((hNil ▸ hPerm).eq_nil)
  have hFirst := List.head?_eq_some_head hNe
  have hOther := List.head?_eq_some_head hOthersNe
  have hFirstMem := List.head_mem hNe
  have hOtherMem := hPerm.mem_iff.mpr (List.head_mem hOthersNe)
  refine ⟨t, hT, agreesOn_of_describes hRules hShown hMembers
    hPerm hFirst hOther ?_ hLeft
    (Grouping.describes_of_summarize hT)⟩
  exact (identityIn_eq_iff (hMembers _ hFirstMem)
    (hMembers _ hOtherMem)).mp
      (identityIn_eq_of_mem_classes hClass hFirstMem hOtherMem)

end Source

namespace Query

/- If the records have sources, they do so in another order. -/
theorem sources_of_perm
    {query : Query}
    {first second : List Record}
    {sources : List Source}
    (hQuery : query.IsWellFormed)
    (hRules : query.IgnoresOrder)
    (hNumbers : ∀ record ∈ first, record.WithoutNan)
    (hPerm : first.Perm second)
    (h : query.sources retry first = .ok sources) :
    ∃ others, query.sources retry second = .ok others ∧
      PermUpTo (Source.AgreesOn query.selection.columns) sources
        others := by
  have hMatched :
      (query.matched first).Perm (query.matched second) :=
    hPerm.filter _
  have hKept :
      ∀ record ∈ query.matched first, record.WithoutNan :=
    forall_mem_matched hNumbers
  cases hGrouping : query.grouping with
  | none =>
      unfold Query.sources at h ⊢
      rw [hGrouping] at h ⊢
      cases h
      refine ⟨_, rfl, PermUpTo.perm_trans (hMatched.map _) ?_⟩
      refine ⟨_, List.Perm.refl _, ?_⟩
      apply List.forall₂_same.mpr
      intro source hMem
      rcases List.mem_map.mp hMem with ⟨record, hRecord, rfl⟩
      exact Source.agreesOn_record
        (hKept record (hMatched.mem_iff.mpr hRecord))
  | some grouping =>
      rcases (sources_eq_ok_iff hGrouping).mp h with
        ⟨summaries, hSummaries, rfl⟩
      -- That members are of one class is needed for each pair.
      have hClasses :=
        (classes_perm grouping.keys hMatched).with_mem
      have hEach : ∀ members others,
          members ∈ classes grouping.keys (query.matched first) ∧
              members.Perm others →
            ∀ s, grouping.summarize retry members = .ok s →
              ∃ t, grouping.summarize retry others = .ok t ∧
                Source.AgreesOn query.selection.columns
                  (.summary s) (.summary t) := by
        rintro members others ⟨hClass, hMembers⟩ s hSummary
        exact Source.agreesOn_of_summarize
          (hRules grouping hGrouping)
          (fun key => hQuery.mem_keys_of_stored hGrouping)
          hKept hClass hMembers hSummary
      rcases hClasses.mapM hEach (mapM_eq_ok_iff.mpr hSummaries)
        with ⟨others, hOthers, hAgree⟩
      refine ⟨others.map Source.summary, ?_, ?_⟩
      · exact (sources_eq_ok_iff hGrouping).mpr
          ⟨others, mapM_eq_ok_iff.mp hOthers, rfl⟩
      · exact hAgree.map fun _ _ hBoth => hBoth

end Query

------------------------------------------------------------
-- Rows That Agree
------------------------------------------------------------

/-
  Two rows agree if they have the same names and their values
  agree: numerically equal numbers, and the same texts.
-/
structure Row.Agrees (a b : Row) : Prop where
  names_eq : a.names = b.names
  values : List.Forall₂
    (fun x y => Value.Agree (some x) (some y))
    a.values b.values

/- Two cells with one name and values that agree. -/
private def CellsAgree (x y : String × Value) : Prop :=
  x.1 = y.1 ∧ Value.Agree (some x.2) (some y.2)

/- Rows agree if their cells do, one by one. -/
private theorem agrees_of_forall₂
    {a b : Row}
    (h : List.Forall₂ CellsAgree a.cells b.cells) :
    Row.Agrees a b where
  names_eq := map_eq_map_of_forall₂ (h.imp fun _ _ => And.left)
  values := by
    unfold Row.values
    rw [List.forall₂_map_left_iff, List.forall₂_map_right_iff]
    exact h.imp fun _ _ => And.right

/- Sources that agree have cells that agree, or none has one. -/
private theorem rel_cell?
    {columns : List Column}
    {column : Column}
    {s t : Source}
    (h : Source.AgreesOn columns s t)
    (hMem : column ∈ columns) :
    Option.Rel CellsAgree (s.cell? column) (t.cell? column) := by
  have hValues := h column hMem
  unfold Source.cell?
  cases hs : s.value? column with
  | none =>
      cases ht : t.value? column with
      | none => exact .none
      | some y => simp [hs, ht, Value.Agree] at hValues
  | some x =>
      cases ht : t.value? column with
      | none => simp [hs, ht, Value.Agree] at hValues
      | some y =>
          rw [hs, ht] at hValues
          exact .some ⟨rfl, hValues⟩

/- Sources that agree become rows that agree, or none does. -/
theorem Source.row?_rel
    {columns : List Column}
    {s t : Source}
    (h : AgreesOn columns s t) :
    Option.Rel Row.Agrees (s.row? columns) (t.row? columns) := by
  have hCells : Option.Rel (List.Forall₂ CellsAgree)
      (columns.mapM s.cell?) (columns.mapM t.cell?) :=
    rel_mapM fun column hMem => rel_cell? h hMem
  unfold row?
  generalize columns.mapM s.cell? = left,
    columns.mapM t.cell? = right at hCells ⊢
  cases hCells with
  | none => exact .none
  | some hAll => exact .some (agrees_of_forall₂ hAll)

/- If the records have rows, they do so in another order. -/
theorem Query.unordered_of_perm
    {query : Query}
    {first second : List Record}
    {rows : List Row}
    (hQuery : query.IsWellFormed)
    (hRules : query.IgnoresOrder)
    (hNumbers : ∀ record ∈ first, record.WithoutNan)
    (hPerm : first.Perm second)
    (h : query.unordered retry first = .ok rows) :
    ∃ others, query.unordered retry second = .ok others ∧
      PermUpTo Row.Agrees rows others := by
  rcases unordered_eq_ok_iff.mp h with ⟨sources, hSources, rfl⟩
  rcases sources_of_perm hQuery hRules hNumbers hPerm
      hSources with
    ⟨others, hOthers, hAgree⟩
  exact ⟨_, unordered_eq_ok_iff.mpr ⟨others, hOthers, rfl⟩,
    hAgree.filterMap fun _ _ => Source.row?_rel⟩

end Registrar
