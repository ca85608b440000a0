import Registrar.Proofs.Answer.Successive
import Registrar.Proofs.Query.WellFormed

/-
  This file proves that the answer to a query does not depend
  on how its grouping and its order are phrased.  It is the same
  in whatever order the keys of the grouping stand, and however
  often; in whatever order its rules stand; and however often a
  sorting column is named again.  A rule whose value is not
  shown can be left out.

  Keys in another order give records other identities, but two
  records share the one if and only if they share the other, and
  so the classes stay the same.

  Key definitions include:
    * `Query.Restates`
    * `Query.withoutRule`
    * `Grouping.Supplies`

  Main statements:
    * `classes_eq_of_mem_iff`
    * `Grouping.Supplies.exists_summarize`
    * `Row.comparePlaces_eraseDups`
    * `Query.answerBy_ignores_phrasing`
-/

------------------------------------------------------------
-- Queries In Other Words
------------------------------------------------------------

namespace Registrar

variable {retry : Decimal.Conversion}

/- Groupings by the same keys, and with the same rules. -/
structure Grouping.Restates
    (grouping other : Grouping) : Prop where
  mem_keys_iff : ∀ key,
    key ∈ grouping.keys ↔ key ∈ other.keys
  rules_perm : grouping.rules.Perm other.rules

/-
  Sortings in one direction by the same columns, each of which
  counts where it is named first.
-/
structure Sorting.Restates
    (sorting other : Sorting) : Prop where
  direction_eq : sorting.direction = other.direction
  columns_eq :
    sorting.columns.eraseDups = other.columns.eraseDups

/-
  Queries that differ only in the order and the repetition of
  the grouping's keys, in the order of its rules, and in how
  sorting columns are named again.
-/
structure Query.Restates
    (query other : Query) : Prop where
  condition_eq : query.condition = other.condition
  columns_eq :
    query.selection.columns = other.selection.columns
  sorting_rel : Option.Rel Sorting.Restates
    query.selection.sorting other.selection.sorting
  grouping_rel : Option.Rel Grouping.Restates
    query.grouping other.grouping

/- A grouping without the rule of a name. -/
def Grouping.withoutRule
    (name : String)
    (grouping : Grouping) : Grouping :=
  { grouping with
    rules := grouping.rules.filter fun rule =>
      rule.name ≠ name }

/- A query without the rule of a name. -/
def Query.withoutRule
    (name : String)
    (query : Query) : Query :=
  { query with
    grouping := query.grouping.map (·.withoutRule name) }

/- Of two related options both are there, or none is. -/
private theorem rel_cases
    {α β : Type}
    {R : α → β → Prop}
    {a : Option α}
    {b : Option β}
    (h : Option.Rel R a b) :
    (a = none ∧ b = none) ∨
      ∃ x y, a = some x ∧ b = some y ∧ R x y := by
  cases h with
  | none => exact .inl ⟨rfl, rfl⟩
  | some hRel => exact .inr ⟨_, _, rfl, rfl, hRel⟩

private theorem rel_symm
    {α : Type}
    {R : α → α → Prop}
    {a b : Option α}
    (hSymm : ∀ {x y}, R x y → R y x)
    (h : Option.Rel R a b) :
    Option.Rel R b a := by
  cases h with
  | none => exact .none
  | some hRel => exact .some (hSymm hRel)

------------------------------------------------------------
-- Keys In Another Order
------------------------------------------------------------

/- Two ways to tell items apart that agree name as many. -/
private theorem forall₂_eraseDups_map
    {α β γ : Type}
    [BEq β] [LawfulBEq β]
    [BEq γ] [LawfulBEq γ]
    {f : α → β}
    {g : α → γ}
    (h : ∀ x y, f x = f y ↔ g x = g y)
    (xs : List α) :
    List.Forall₂ (fun a b => ∃ x, a = f x ∧ b = g x)
      (xs.map f).eraseDups (xs.map g).eraseDups := by
  induction xs using List.reverseRecOn with
  | nil => exact .nil
  | append_singleton xs x ih =>
      have hMem : f x ∈ xs.map f ↔ g x ∈ xs.map g := by
        rw [List.mem_map, List.mem_map]
        exact exists_congr fun y => and_congr_right' (h y x)
      rw [List.map_append, List.map_append, List.map_singleton,
        List.map_singleton, eraseDups_concat, eraseDups_concat]
      by_cases hOld : f x ∈ xs.map f
      · rw [if_pos hOld, if_pos (hMem.mp hOld)]
        exact ih
      · rw [if_neg hOld, if_neg (mt hMem.mpr hOld)]
        exact List.rel_append ih (.cons ⟨x, rfl, rfl⟩ .nil)

/- Records that share one identity share the other. -/
private theorem identityIn_eq_iff_of_mem_iff
    {keys others : List Key}
    (h : ∀ key, key ∈ keys ↔ key ∈ others)
    (r s : Record) :
    identityIn keys r = identityIn keys s ↔
      identityIn others r = identityIn others s := by
  unfold identityIn
  rw [List.map_inj_left, List.map_inj_left]
  exact forall_congr' fun key => imp_congr (h key) Iff.rfl

/- The classes depend on which keys there are, and no more. -/
theorem classes_eq_of_mem_iff
    {keys others : List Key}
    (h : ∀ key, key ∈ keys ↔ key ∈ others)
    (records : List Record) :
    classes keys records = classes others records := by
  have hShared := identityIn_eq_iff_of_mem_iff h
  rw [classes_eq, classes_eq]
  apply map_eq_map_of_forall₂
  apply (forall₂_eraseDups_map hShared records).imp
  rintro _ _ ⟨first, rfl, rfl⟩
  apply List.filter_congr
  intro record _
  exact decide_eq_decide.mpr (hShared record first)

------------------------------------------------------------
-- Rules In Another Order
------------------------------------------------------------

namespace Grouping

/-
  A grouping that has all that some columns take from another
  one: the same classes, no rules of its own, and the rule of
  each computed value that is shown.
-/
structure Supplies
    (columns : List Column)
    (grouping other : Grouping) : Prop where
  mem_keys_iff : ∀ key,
    key ∈ grouping.keys ↔ key ∈ other.keys
  rules_subset : other.rules ⊆ grouping.rules
  rule?_eq : ∀ name, .applied name ∈ columns →
    other.rule? name = grouping.rule? name

/- Rules with different names are found in any order. -/
theorem Restates.supplies
    {grouping other : Grouping}
    (h : grouping.Restates other)
    (hNames : (grouping.rules.map AppliedRule.name).Nodup)
    (columns : List Column) :
    Supplies columns grouping other := by
  have hOtherNames :
      (other.rules.map AppliedRule.name).Nodup :=
    (h.rules_perm.map _).nodup_iff.mp hNames
  refine ⟨h.mem_keys_iff, h.rules_perm.symm.subset, ?_⟩
  intro name _
  apply Option.ext
  intro rule
  constructor
  · intro hRule
    rcases mem_of_rule? hRule with ⟨hMem, rfl⟩
    exact rule?_name_eq hNames (h.rules_perm.mem_iff.mpr hMem)
  · intro hRule
    rcases mem_of_rule? hRule with ⟨hMem, rfl⟩
    exact rule?_name_eq hOtherNames
      (h.rules_perm.mem_iff.mp hMem)

/- A rule whose value is not shown can be left out. -/
theorem supplies_withoutRule
    {name : String}
    {columns : List Column}
    (hHidden : .applied name ∉ columns)
    (grouping : Grouping) :
    Supplies columns grouping (grouping.withoutRule name) := by
  refine ⟨fun _ => Iff.rfl,
    List.filter_sublist.subset, ?_⟩
  intro shown hShown
  have hNe : shown ≠ name := by
    rintro rfl
    exact hHidden hShown
  unfold rule? withoutRule
  rw [← List.filter_reverse, List.find?_filter]
  congr 1
  funext rule
  by_cases hName : rule.name = shown <;> simp [hName, hNe]

/- A class is summed up by both, and becomes the same row. -/
theorem Supplies.exists_summarize
    {columns : List Column}
    {grouping other : Grouping}
    {members : List Record}
    {summary : Summary}
    (h : Supplies columns grouping other)
    (hKeys : ∀ key, .stored key ∈ columns →
      key ∈ grouping.keys)
    (hMembers : members ≠ [])
    (hSummary : grouping.summarize retry members = .ok summary) :
    ∃ found, other.summarize retry members = .ok found ∧
      (Source.summary found).row? columns =
        (Source.summary summary).row? columns := by
  have hDescribes := describes_of_summarize hSummary
  obtain ⟨found, hFound⟩ := exists_summarize_iff.mpr
    fun rule hRule =>
      hDescribes.evaluate_eq_ok rule (h.rules_subset hRule)
  have hOther := describes_of_summarize hFound
  rcases List.exists_cons_of_ne_nil hMembers with
    ⟨first, rest, rfl⟩
  have hCells : columns.mapM (Source.summary found).cell? =
      columns.mapM (Source.summary summary).cell? := by
    apply mapM_eq_mapM_of_forall₂
    rw [List.forall₂_same]
    intro column hColumn
    cases column with
    | stored key =>
        have hMem := hKeys key hColumn
        have hLeft := hOther.get?_eq first rfl key
          ((h.mem_keys_iff key).mp hMem)
        have hRight := hDescribes.get?_eq first rfl key hMem
        simp only [Source.cell?, Source.value?, Source.get?,
          hLeft, hRight]
    | applied name =>
        simp only [Source.cell?, Source.value?, Source.applied?,
          hOther.applied?_eq, hDescribes.applied?_eq,
          h.rule?_eq name hColumn]
  refine ⟨found, hFound, ?_⟩
  unfold Source.row?
  rw [hCells]

end Grouping

------------------------------------------------------------
-- Columns Named Again
------------------------------------------------------------

/- A column that is named again does not order rows anew. -/
theorem Row.comparePlaces_eraseDups
    (collate : TextOrder)
    (columns sorting : List Column)
    (a b : Row) :
    comparePlaces collate
        (sorting.eraseDups.filterMap columns.idxOf?) a b =
      comparePlaces collate
        (sorting.filterMap columns.idxOf?) a b := by
  -- Where the earlier places decide, a later one does not count,
  -- and where they do not, none of them tells the rows apart.
  have hUndecided : ∀ {places : List Nat} {place : Nat},
      place ∈ places → comparePlaces collate places a b = .eq →
        compareAt collate place a b = .eq := by
    intro places place hMem h
    induction places with
    | nil => cases hMem
    | cons first rest ih =>
        rcases Ordering.then_eq_eq.mp h with ⟨hFirst, hRest⟩
        rcases List.mem_cons.mp hMem with rfl | hLater
        · exact hFirst
        · exact ih hLater hRest
  induction sorting using List.reverseRecOn with
  | nil => rfl
  | append_singleton sorting column ih =>
      rw [eraseDups_concat, List.filterMap_append,
        comparePlaces_append]
      split
      · next hOld =>
          rw [ih]
          cases hPlace : columns.idxOf? column with
          | none => simp [hPlace, comparePlaces]
          | some place =>
              have hMem :
                  place ∈ sorting.filterMap columns.idxOf? :=
                List.mem_filterMap.mpr ⟨column, hOld, hPlace⟩
              cases hFirst : comparePlaces collate
                  (sorting.filterMap columns.idxOf?) a b with
              | lt => rfl
              | gt => rfl
              | eq =>
                  simp [hPlace, comparePlaces,
                    hUndecided hMem hFirst]
      · rw [List.filterMap_append, comparePlaces_append, ih]

namespace Query

variable {collate : TextOrder} {records : List Record}

/- Restated, rows are put in the same order. -/
theorem Restates.arrangeBy_eq
    {query other : Query}
    (h : query.Restates other)
    (collate : TextOrder)
    (rows : List Row) :
    query.arrangeBy collate rows =
      other.arrangeBy collate rows := by
  unfold arrangeBy
  rcases rel_cases h.sorting_rel with
    ⟨hQuery, hOther⟩ | ⟨sorting, again, hQuery, hOther, hAgain⟩
  · rw [hQuery, hOther]
  · have hPlaces : ∀ a b,
        Row.comparePlaces collate
            query.selection.sortingPlaces a b =
          Row.comparePlaces collate
            other.selection.sortingPlaces a b := by
      intro a b
      unfold Selection.sortingPlaces Selection.sortingColumns
      rw [hQuery, hOther]
      dsimp only
      rw [← Row.comparePlaces_eraseDups, hAgain.columns_eq,
        h.columns_eq, Row.comparePlaces_eraseDups]
    rw [hQuery, hOther]
    dsimp only
    unfold Row.orderBy
    congr 1
    funext a b
    unfold Row.compareBy
    rw [hPlaces, hAgain.direction_eq]

------------------------------------------------------------
-- Answers To Queries In Other Words
------------------------------------------------------------

/- Classes have the rows of a grouping that has all they need. -/
private theorem exists_summaries_of_supplies
    {columns : List Column}
    {grouping another : Grouping}
    {groups : List (List Record)}
    {summaries : List Summary}
    (hSupplies : Grouping.Supplies columns grouping another)
    (hKeys : ∀ key, .stored key ∈ columns → key ∈ grouping.keys)
    (hSome : ∀ members ∈ groups, members ≠ [])
    (h : List.Forall₂
      (fun members summary =>
        grouping.summarize retry members = .ok summary)
      groups summaries) :
    ∃ others,
      List.Forall₂
        (fun members found =>
          another.summarize retry members = .ok found)
        groups others ∧
      summaries.map (fun summary =>
          (Source.summary summary).row? columns) =
        others.map fun found =>
          (Source.summary found).row? columns := by
  induction h with
  | nil => exact ⟨[], .nil, rfl⟩
  | @cons members summary groups summaries hSummary hRest ih =>
      rcases hSupplies.exists_summarize hKeys
          (hSome members List.mem_cons_self) hSummary with
        ⟨found, hFound, hRow⟩
      rcases ih fun members hMem =>
          hSome members (List.mem_cons_of_mem _ hMem) with
        ⟨others, hOthers, hRows⟩
      refine ⟨found :: others, .cons hFound hOthers, ?_⟩
      rw [List.map_cons, List.map_cons, hRows, hRow]

/- The rows are those of a grouping that has all they need. -/
theorem unordered_of_supplies
    {query other : Query}
    {grouping another : Grouping}
    {rows : List Row}
    (hCondition : query.condition = other.condition)
    (hColumns :
      query.selection.columns = other.selection.columns)
    (hQuery : query.grouping = some grouping)
    (hOther : other.grouping = some another)
    (hSupplies : Grouping.Supplies query.selection.columns
      grouping another)
    (hKeys : ∀ key, .stored key ∈ query.selection.columns →
      key ∈ grouping.keys)
    (h : query.unordered retry records = .ok rows) :
    other.unordered retry records = .ok rows := by
  have hMatched :
      other.matched records = query.matched records := by
    unfold matched
    rw [hCondition]
  rcases unordered_eq_ok_iff.mp h with ⟨sources, hSources, rfl⟩
  rcases (sources_eq_ok_iff hQuery).mp hSources with
    ⟨summaries, hSummaries, rfl⟩
  have hClasses :
      classes another.keys (other.matched records) =
        classes grouping.keys (query.matched records) := by
    rw [hMatched]
    exact (classes_eq_of_mem_iff hSupplies.mem_keys_iff _).symm
  rcases exists_summaries_of_supplies hSupplies hKeys
      (fun _ => ne_nil_of_mem_classes) hSummaries with
    ⟨others, hOthers, hRows⟩
  refine unordered_eq_ok_iff.mpr
    ⟨others.map Source.summary,
      (sources_eq_ok_iff hOther).mpr ⟨others, ?_, rfl⟩, ?_⟩
  · rw [hClasses]
    exact hOthers
  · have hSame := congrArg (List.filterMap id) hRows
    rw [List.filterMap_map, List.filterMap_map] at hSame ⊢
    rw [← hColumns]
    exact hSame

/- Without a grouping, the rows are those of the records. -/
private theorem unordered_of_records
    {query other : Query}
    (hCondition : query.condition = other.condition)
    (hColumns :
      query.selection.columns = other.selection.columns)
    (hQuery : query.grouping = none)
    (hOther : other.grouping = none)
    (records : List Record) :
    query.unordered retry records =
      other.unordered retry records := by
  unfold unordered sources matched
  rw [hQuery, hOther, hCondition, hColumns]

/- Restated, a query has the same rows before they are ordered. -/
private theorem Restates.unordered_eq_ok
    {query other : Query}
    {rows : List Row}
    (h : query.Restates other)
    (hQuery : query.IsWellFormed)
    (hRows : query.unordered retry records = .ok rows) :
    other.unordered retry records = .ok rows := by
  rcases rel_cases h.grouping_rel with
    ⟨hNone, hOther⟩ | ⟨grouping, again, hSome, hOther, hAgain⟩
  · rw [← unordered_of_records h.condition_eq h.columns_eq
      hNone hOther, hRows]
  · have hNames :=
      (hQuery.grouping_wellFormed _ hSome).names_nodup
    exact unordered_of_supplies h.condition_eq h.columns_eq
      hSome hOther (hAgain.supplies hNames _)
      (fun _ => hQuery.mem_keys_of_stored hSome) hRows

/- Restated, a query that has an answer has the same one. -/
theorem Restates.answerBy_eq_ok
    {query other : Query}
    {rows : List Row}
    (h : query.Restates other)
    (hQuery : query.IsWellFormed)
    (hRows : query.answerBy collate retry records = .ok rows) :
    other.answerBy collate retry records = .ok rows := by
  rcases answerBy_eq_ok_iff.mp hRows with ⟨found, hFound, rfl⟩
  rw [h.arrangeBy_eq collate found]
  exact answerBy_eq_ok_iff.mpr
    ⟨found, h.unordered_eq_ok hQuery hFound, rfl⟩

/- What restates a query is restated by it. -/
theorem Restates.symm
    {query other : Query}
    (h : query.Restates other) :
    other.Restates query where
  condition_eq := h.condition_eq.symm
  columns_eq := h.columns_eq.symm
  sorting_rel := rel_symm
    (fun hSorting => ⟨hSorting.direction_eq.symm,
      hSorting.columns_eq.symm⟩) h.sorting_rel
  grouping_rel := rel_symm
    (fun hGrouping => ⟨fun key =>
        (hGrouping.mem_keys_iff key).symm,
      hGrouping.rules_perm.symm⟩) h.grouping_rel

------------------------------------------------------------
-- Rules That Are Not Shown
------------------------------------------------------------

private theorem keys_withoutRule_subset
    {query : Query}
    {name : String} :
    (query.withoutRule name).keys ⊆ query.keys := by
  unfold keys Request.keys withoutRule
  cases query.grouping with
  | none => exact List.Subset.refl _
  | some grouping =>
      have hRules :
          (grouping.withoutRule name).rules.Sublist
            grouping.rules :=
        List.filter_sublist
      have hKeys : (grouping.withoutRule name).allKeys.Sublist
          grouping.allKeys :=
        (hRules.map AppliedRule.key).append_left _
      exact ((hKeys.append_left _).append_left _).subset

/- A query stays well formed without a rule that is not shown. -/
theorem IsWellFormed.withoutRule
    {query : Query}
    {name : String}
    (h : query.IsWellFormed)
    (hHidden : .applied name ∉ query.selection.columns) :
    (query.withoutRule name).IsWellFormed := by
  have hCases : ∀ another ∈ (query.withoutRule name).grouping,
      ∃ grouping, query.grouping = some grouping ∧
        another = grouping.withoutRule name := by
    intro another hAnother
    rcases Option.map_eq_some_iff.mp hAnother with
      ⟨grouping, hGrouping, rfl⟩
    exact ⟨grouping, hGrouping, rfl⟩
  have hProvides : ∀ {grouping : Grouping} {column : Column},
      column ∈ query.selection.columns →
        grouping.provides column = true →
          (grouping.withoutRule name).provides column =
            true := by
    intro grouping column hColumn hProvided
    cases column with
    | stored key => exact hProvided
    | applied shown =>
        rw [Grouping.provides, List.any_eq_true] at hProvided ⊢
        rcases hProvided with ⟨rule, hRule, hName⟩
        refine ⟨rule, List.mem_filter.mpr ⟨hRule, ?_⟩, hName⟩
        apply decide_eq_true
        rintro rfl
        rw [← eq_of_beq hName] at hColumn
        exact hHidden hColumn
  exact
    { condition_wellFormed := h.condition_wellFormed
      selection_wellFormed := h.selection_wellFormed
      columns_nodup := h.columns_nodup
      grouping_wellFormed := by
        intro another hAnother
        rcases hCases another hAnother with
          ⟨grouping, hGrouping, rfl⟩
        have hWellFormed :=
          h.grouping_wellFormed grouping hGrouping
        have hRules :
            (grouping.withoutRule name).rules.Sublist
              grouping.rules :=
          List.filter_sublist
        exact ⟨hWellFormed.keys_ne_nil,
          hWellFormed.keys_wellFormed,
          fun rule hRule => hWellFormed.rules_wellFormed rule
            (hRules.subset hRule),
          hWellFormed.names_nodup.sublist (hRules.map _)⟩
      provides_columns := by
        intro another hAnother column hColumn
        rcases hCases another hAnother with
          ⟨grouping, hGrouping, rfl⟩
        exact hProvides hColumn
          (h.provides_columns grouping hGrouping column hColumn)
      provides_sortingColumns := by
        intro another hAnother column hColumn
        rcases hCases another hAnother with
          ⟨grouping, hGrouping, rfl⟩
        have hShown :=
          h.selection_wellFormed.sorting_subset hColumn
        exact hProvides hShown
          (h.provides_columns grouping hGrouping column hShown)
      columns_stored := fun hNone =>
        h.columns_stored (Option.map_eq_none_iff.mp hNone)
      keys_dataSet := fun key hKey =>
        h.keys_dataSet key (keys_withoutRule_subset hKey)
      dataSet_wellFormed := h.dataSet_wellFormed }

/- Without a rule that is not shown, the answer is the same. -/
theorem answerBy_withoutRule
    {query : Query}
    {name : String}
    {rows : List Row}
    (hQuery : query.IsWellFormed)
    (hHidden : .applied name ∉ query.selection.columns)
    (hRows : query.answerBy collate retry records = .ok rows) :
    (query.withoutRule name).answerBy collate retry records =
      .ok rows := by
  rcases answerBy_eq_ok_iff.mp hRows with ⟨found, hFound, rfl⟩
  refine answerBy_eq_ok_iff.mpr ⟨found, ?_, rfl⟩
  cases hGrouping : query.grouping with
  | none =>
      have hSame : query.withoutRule name = query := by
        unfold withoutRule
        rw [hGrouping, Option.map_none, ← hGrouping]
      rw [hSame, hFound]
  | some grouping =>
      have hAnother : (query.withoutRule name).grouping =
          some (grouping.withoutRule name) := by
        unfold withoutRule
        rw [hGrouping, Option.map_some]
      have hSupplies :=
        Grouping.supplies_withoutRule hHidden grouping
      apply unordered_of_supplies ?_ ?_ hGrouping hAnother
        hSupplies ?_ hFound
      · rfl
      · rfl
      · exact fun _ => hQuery.mem_keys_of_stored hGrouping

/-
  A query and one that restates it both fail, or both have the
  very same rows in the same order; and a rule that is not shown
  can be left out of a query that has an answer.
-/
theorem answerBy_ignores_phrasing
    {query : Query}
    (hStated : query.IsStated) :
    (∀ other : Query, other.IsStated → query.Restates other →
      ((∃ failure,
          query.answerBy collate retry records = .error failure) ∧
        ∃ failure,
          other.answerBy collate retry records = .error failure) ∨
      ∃ rows, query.answerBy collate retry records = .ok rows ∧
        other.answerBy collate retry records = .ok rows) ∧
    ∀ name rows, .applied name ∉ query.selection.columns →
      query.answerBy collate retry records = .ok rows →
        (query.withoutRule name).IsStated ∧
          (query.withoutRule name).answerBy collate retry records =
            .ok rows := by
  have hQuery := hStated.isWellFormed
  refine ⟨?_, ?_⟩
  · intro other hOther hRestates
    cases hLeft : query.answerBy collate retry records with
    | ok rows =>
        exact .inr
          ⟨rows, rfl, hRestates.answerBy_eq_ok hQuery hLeft⟩
    | error failure =>
        refine .inl ⟨⟨failure, rfl⟩, ?_⟩
        cases hRight : other.answerBy collate retry records with
        | error another => exact ⟨another, rfl⟩
        | ok rows =>
            have hBack := hRestates.symm.answerBy_eq_ok
              hOther.isWellFormed hRight
            rw [hLeft] at hBack
            cases hBack
  · intro name rows hHidden hRows
    exact ⟨isStated_iff_isWellFormed.mpr
        (hQuery.withoutRule hHidden),
      answerBy_withoutRule hQuery hHidden hRows⟩

/- Departments by year are years by department. -/
theorem answerBy_ignores_phrasing_departments :
    let retry : Decimal.Conversion := Decimal.noRetry
    let collate : TextOrder := Collation.compareTexts
    let dept : Key := ⟨"ubc", .dept⟩
    let year : Key := ⟨"ubc", .year⟩
    let first : AppliedRule := ⟨"first", .min, year⟩
    let count : AppliedRule := ⟨"count", .count, dept⟩
    let shown : List Column :=
      [.stored dept, .applied "count"]
    let query : Query :=
      ⟨⟨.always,
          ⟨shown, some (.several .down [.applied "count",
            .stored dept])⟩,
          some ⟨[dept, year], [first, count]⟩⟩,
        "ubc"⟩
    let other : Query :=
      ⟨⟨.always,
          ⟨shown, some (.several .down [.applied "count",
            .stored dept, .applied "count"])⟩,
          some ⟨[year, dept, year], [count, first]⟩⟩,
        "ubc"⟩
    let record (name : String) (n : Nat) : Record :=
      ⟨[("dept", .text name),
        ("year", .number (Binary64.ofNat n))]⟩
    let records : List Record :=
      [record "cpsc" 1, record "math" 2, record "cpsc" 2]
    query.IsStated ∧ other.IsStated ∧ query.Restates other ∧
    .applied "first" ∉ query.selection.columns ∧
    ∃ rows, query.answerBy collate retry records = .ok rows ∧
      other.answerBy collate retry records = .ok rows ∧
      (query.withoutRule "first").answerBy collate retry records =
        .ok rows := by
  intro retry collate dept year first count shown query other
    record records
  obtain ⟨hRequest, hAgain, hHidden⟩ :
      Request.ofJson query.toJson = .ok query.toRequest ∧
        Request.ofJson other.toJson = .ok other.toRequest ∧
          .applied "first" ∉ query.selection.columns := by
    decide +revert
  have hStated : query.IsStated :=
    isStated_of_toJson hRequest (by decide +kernel)
  have hOther : other.IsStated :=
    isStated_of_toJson hAgain (by decide +kernel)
  have hRestates : query.Restates other :=
    ⟨rfl, rfl, .some ⟨rfl, by decide⟩,
      .some ⟨by simp [or_comm], List.Perm.swap _ _ _⟩⟩
  obtain ⟨rows, hRows⟩ :
      ∃ rows, query.answerBy collate retry records = .ok rows :=
    exists_eq_ok_iff.mp (by decide +kernel)
  rcases answerBy_ignores_phrasing hStated with
    ⟨hPhrasing, hWithout⟩
  rcases hPhrasing other hOther hRestates with
    ⟨⟨failure, hFails⟩, -⟩ | ⟨same, hSame, hBoth⟩
  · rw [hFails] at hRows
    cases hRows
  · obtain rfl := Except.ok.inj (hRows.symm.trans hSame)
    exact ⟨hStated, hOther, hRestates, hHidden, rows, hRows,
      hBoth, (hWithout "first" rows hHidden hRows).2⟩

end Query

end Registrar
