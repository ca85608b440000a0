import Mathlib.Data.List.Nodup
import Registrar.Proofs.Query.Patterns
import Registrar.Proofs.Query.RoundTrip

/-
  This file proves what can be relied on in a query that has
  been read: it is well formed.  Nothing more can be relied on,
  since each well-formed query is read from its own document.

  The answer to a query rests on this.  A column to order by
  that is not shown, or a shown one that no class provides,
  would be left out without a word.

  Key definitions include:
    * `Condition.IsProper`
    * `Query.IsWellFormed`

  Main statements:
    * `Condition.isProper_of_stated`
    * `Condition.exists_stated_of_isProper`
    * `Query.exists_mem_keys`
    * `Query.isStated_iff_isWellFormed`
-/

------------------------------------------------------------
-- Conditions
------------------------------------------------------------

namespace Registrar

namespace Condition

/-
  A condition that can stand below others.  It is not the empty
  one, connectives have operands, numbers to compare with are
  finite, and fields are of the domain that is looked at.
-/
inductive IsProper : Condition → Prop
| junction
    {connective : Connective}
    {operands : List Condition}
    (hNe : operands ≠ [])
    (hOperands : ∀ operand ∈ operands, IsProper operand) :
    IsProper (.junction connective operands)
| comparison
    {relation : Relation}
    {key : Key}
    {operand : Binary64}
    (hKey : key.IsWellFormed)
    (hDomain : key.field.domain = .numeric)
    (hOperand : operand.IsFinite) :
    IsProper (.comparison relation key operand)
| likeness
    {key : Key}
    {pattern : Pattern}
    (hKey : key.IsWellFormed)
    (hDomain : key.field.domain = .textual)
    (hPattern : pattern.IsWellFormed) :
    IsProper (.likeness key pattern)
| negation
    {operand : Condition}
    (hOperand : IsProper operand) :
    IsProper (.negation operand)

/- A condition of a query: the empty one, or a proper one. -/
def IsWellFormed (condition : Condition) : Prop :=
  condition = .always ∨ condition.IsProper

-- Whether a value is finite is known without computing it.
attribute [local irreducible] twoTo

/- A number of a decoded document is finite. -/
private theorem isFinite_of_number?
    {document : Json}
    {operand : Binary64}
    (hDecoded : document.Decoded)
    (h : document.number? = some operand) :
    operand.IsFinite := by
  cases document with
  | integer n =>
      rw [Json.Decoded] at hDecoded
      rw [← Option.some.inj h]
      exact hDecoded.isFinite_ofInt
  | float x =>
      rw [Json.Decoded] at hDecoded
      rw [← Option.some.inj h]
      exact hDecoded
  | _ => cases h

mutual

/- What decoded members state is proper. -/
theorem isProper_of_stated
    {members : List (String × Json)}
    {condition : Condition}
    (hDecoded : Json.DecodedMembers members)
    (h : Stated members condition) :
    condition.IsProper := by
  cases h with
  | @junction connective items operands hNe hItems =>
      have hInner : Json.DecodedItems items := by
        simpa [Json.DecodedMembers, Json.Decoded] using hDecoded
      refine .junction ?_ (isProper_of_allStated hInner hItems)
      rintro rfl
      cases hItems
      exact hNe rfl
  | @comparison relation key document operand hKey hDomain
      hOperand =>
      have hInner : document.Decoded := by
        rw [Json.DecodedMembers] at hDecoded
        exact Json.decoded_single_iff.mp hDecoded.1
      exact .comparison hKey hDomain
        (isFinite_of_number? hInner hOperand)
  | likeness hKey hDomain hPattern =>
      exact .likeness hKey hDomain
        (Pattern.parse_eq_some_iff.mp hPattern).2
  | @negation members operand hOperand =>
      have hInner : Json.DecodedMembers members := by
        rw [Json.DecodedMembers, Json.Decoded] at hDecoded
        exact hDecoded.1.2
      exact .negation (isProper_of_stated hInner hOperand)

private theorem isProper_of_allStated
    {items : List Json}
    {operands : List Condition}
    (hDecoded : Json.DecodedItems items)
    (h : AllStated items operands) :
    ∀ operand ∈ operands, operand.IsProper := by
  cases h with
  | nil => exact List.forall_mem_nil _
  | cons hHead hTail =>
      rw [Json.DecodedItems, Json.Decoded] at hDecoded
      exact List.forall_mem_cons.mpr
        ⟨isProper_of_stated hDecoded.1.2 hHead,
          isProper_of_allStated hDecoded.2 hTail⟩

end

/- Documents of operands state them, if each one does. -/
private theorem allStated_toJsonOfAll
    {operands : List Condition}
    (h : ∀ operand ∈ operands, ∃ members,
      operand.toJson = .object members ∧
        Stated members operand) :
    AllStated (toJsonOfAll operands) operands := by
  induction operands with
  | nil => exact .nil
  | cons first rest ih =>
      rcases List.forall_mem_cons.mp h with
        ⟨⟨members, hEq, hStated⟩, hRest⟩
      rw [toJsonOfAll, hEq]
      exact .cons hStated (ih hRest)

/- A proper condition is stated by its own document. -/
theorem exists_stated_of_isProper
    {condition : Condition}
    (h : condition.IsProper) :
    ∃ members, condition.toJson = .object members ∧
      Stated members condition := by
  induction h with
  | @junction connective operands hNe _ ih =>
      refine ⟨_, by rw [toJson, Json.single], ?_⟩
      apply Stated.junction ?_ (allStated_toJsonOfAll ih)
      cases operands with
      | nil => exact absurd rfl hNe
      | cons first rest => exact List.cons_ne_nil _ _
  | @comparison relation key operand hKey hDomain hOperand =>
      refine ⟨_, by rw [toJson, Json.single, Json.single], ?_⟩
      apply Stated.comparison hKey hDomain
      rw [Json.ofBinary64, if_pos hOperand]
      rfl
  | @likeness key pattern hKey hDomain hPattern =>
      refine ⟨_, by rw [toJson, Json.single, Json.single], ?_⟩
      apply Stated.likeness hKey hDomain
      exact Pattern.parse_eq_some_iff.mpr ⟨rfl, hPattern⟩
  | @negation operand _ ih =>
      rcases ih with ⟨members, hEq, hStated⟩
      refine ⟨_, by rw [toJson, Json.single, hEq], ?_⟩
      exact .negation hStated

/- A condition that has been read is well formed. -/
theorem isWellFormed_of_ofJson
    {document : Json}
    {condition : Condition}
    (hDecoded : document.Decoded)
    (h : ofJson document = .ok condition) :
    condition.IsWellFormed := by
  rcases ofJson_eq_ok_iff.mp h with
    ⟨-, rfl⟩ | ⟨members, rfl, hStated⟩
  · exact .inl rfl
  · rw [Json.Decoded] at hDecoded
    exact .inr (isProper_of_stated hDecoded.2 hStated)

/- A condition that is well formed is read from its document. -/
theorem ofJson_toJson_of_isWellFormed
    {condition : Condition}
    (h : condition.IsWellFormed) :
    ofJson condition.toJson = .ok condition := by
  apply ofJson_eq_ok_iff.mpr
  rcases h with rfl | hProper
  · exact .inl ⟨by rw [toJson], rfl⟩
  · exact .inr (exists_stated_of_isProper hProper)

end Condition

------------------------------------------------------------
-- Queries
------------------------------------------------------------

/- A column is shown if the grouping has a value for it. -/
theorem Request.checkColumn_eq_ok_iff
    {grouping : Option Grouping}
    {column : Column} :
    checkColumn grouping column = .ok () ↔
      (∀ g ∈ grouping, g.provides column = true) ∧
        (grouping = none → ∃ key, column = .stored key) := by
  cases grouping with
  | none => cases column <;> simp [checkColumn]
  | some g => simp [checkColumn]

namespace Query

/-
  A query that can be answered.  Its parts are well formed; with
  a grouping, each column that is shown or ordered by is a key
  of the grouping or the name of a rule, and without one it is a
  key; and all keys name the one data set.
-/
structure IsWellFormed (query : Query) : Prop where
  condition_wellFormed : query.condition.IsWellFormed
  selection_wellFormed : query.selection.IsWellFormed
  columns_nodup : query.selection.columns.Nodup
  grouping_wellFormed :
    ∀ grouping ∈ query.grouping, grouping.IsWellFormed
  provides_columns : ∀ grouping ∈ query.grouping,
    ∀ column ∈ query.selection.columns,
      grouping.provides column = true
  provides_sortingColumns : ∀ grouping ∈ query.grouping,
    ∀ column ∈ query.selection.sortingColumns,
      grouping.provides column = true
  columns_stored : query.grouping = none →
    ∀ column ∈ query.selection.columns,
      ∃ key, column = .stored key
  keys_dataSet : ∀ key ∈ query.keys,
    key.dataSet = query.dataSet
  dataSet_wellFormed : IsDataSetId query.dataSet

/- A grouping is by the keys that are shown, among others. -/
theorem IsWellFormed.mem_keys_of_stored
    {query : Query}
    {grouping : Grouping}
    {key : Key}
    (h : query.IsWellFormed)
    (hGrouping : query.grouping = some grouping)
    (hMem : .stored key ∈ query.selection.columns) :
    key ∈ grouping.keys := by
  have hProvides :=
    h.provides_columns grouping hGrouping (.stored key) hMem
  simpa [Grouping.provides] using hProvides

/-
  A query whose columns can be shown has a key.  Without a
  grouping each column is one, and a grouping has its own.
-/
theorem exists_mem_keys
    {query : Query}
    (hSelection : query.selection.IsWellFormed)
    (hGrouping : ∀ grouping ∈ query.grouping,
      grouping.IsWellFormed)
    (hStored : query.grouping = none →
      ∀ column ∈ query.selection.columns,
        ∃ key, column = .stored key) :
    ∃ key ∈ query.keys, key.IsWellFormed := by
  unfold keys Request.keys
  cases hCase : query.grouping with
  | none =>
      rcases List.exists_mem_of_ne_nil _
          hSelection.columns_ne_nil with
        ⟨column, hMem⟩
      rcases hStored hCase column hMem with ⟨key, rfl⟩
      have hKey : key ∈ query.selection.keys := by
        apply List.mem_append_left
        exact List.mem_filterMap.mpr ⟨_, hMem, rfl⟩
      refine ⟨key, by simp [hKey], ?_⟩
      exact hSelection.columns_wellFormed _ hMem
  | some grouping =>
      have hWellFormed := hGrouping grouping hCase
      rcases List.exists_mem_of_ne_nil _
          hWellFormed.keys_ne_nil with
        ⟨key, hMem⟩
      have hKey : key ∈ grouping.allKeys :=
        List.mem_append_left _ hMem
      refine ⟨key, by simp [hKey], ?_⟩
      exact hWellFormed.keys_wellFormed key hMem

/- A query that has been read is well formed. -/
theorem IsStated.isWellFormed
    {query : Query}
    (h : query.IsStated) :
    query.IsWellFormed := by
  have hSelection := h.selection_wellFormed
  rcases h with ⟨document, hDecoded, hRead⟩
  rcases (ofJson_eq_ok_iff hDecoded).mp hRead with
    ⟨hId, condition, selection, rfl, hStated⟩
  have hCondition := (Request.decoded_parts hDecoded).1
  have hShown := hStated.columns_shown
  simp only [Request.checkColumn_eq_ok_iff] at hShown
  rcases Request.dataSet_eq_ok_iff.mp hId with ⟨-, hKeys⟩
  have hStored : query.grouping = none →
      ∀ column ∈ query.selection.columns,
        ∃ key, column = .stored key :=
    fun hNone column hMem => (hShown column hMem).2 hNone
  rcases exists_mem_keys hSelection
      hStated.grouping_wellFormed hStored with
    ⟨key, hKey, hWellFormed⟩
  exact
    { condition_wellFormed :=
        Condition.isWellFormed_of_ofJson hCondition
          hStated.condition_read
      selection_wellFormed := hSelection
      columns_nodup :=
        List.Nodup.of_map _ hSelection.texts_nodup
      grouping_wellFormed := hStated.grouping_wellFormed
      provides_columns := fun grouping hGrouping column hMem =>
        (hShown column hMem).1 grouping hGrouping
      provides_sortingColumns :=
        fun grouping hGrouping column hMem =>
          (hShown column (hSelection.sorting_subset hMem)).1
            grouping hGrouping
      columns_stored := hStored
      keys_dataSet := hKeys
      dataSet_wellFormed := hKeys key hKey ▸ hWellFormed }

/-
  A query on a data set is read from the documents that state
  its parts.
-/
theorem ofJson_of_statedBy
    {query : Query}
    {condition selection : Json}
    (hDecoded :
      (Json.object (query.toRequest.membersWith
        condition selection)).Decoded)
    (hStated : query.toRequest.StatedBy condition selection)
    (hKeys : ∀ key ∈ query.keys,
      key.dataSet = query.dataSet) :
    ofJson
        (.object (query.toRequest.membersWith
          condition selection)) =
      .ok query := by
  apply (ofJson_eq_ok_iff hDecoded).mpr
  refine ⟨?_, condition, selection, rfl, hStated⟩
  have hSelection := ((Selection.ofJson_eq_ok_iff
    (Request.decoded_parts hDecoded).2).mp
    hStated.selection_read).1
  have hShown := hStated.columns_shown
  simp only [Request.checkColumn_eq_ok_iff] at hShown
  rcases exists_mem_keys hSelection hStated.grouping_wellFormed
      fun hNone column hMem => (hShown column hMem).2 hNone with
    ⟨key, hKey, -⟩
  exact Request.dataSet_eq_ok_iff.mpr
    ⟨List.ne_nil_of_mem hKey, hKeys⟩

/- A query that is well formed is read from its document. -/
theorem IsWellFormed.ofJson_toJson
    {query : Query}
    (h : query.IsWellFormed) :
    ofJson query.toJson = .ok query := by
  have hDecoded := query.decoded_toJson
  rw [query.toJson_eq] at hDecoded ⊢
  apply ofJson_of_statedBy hDecoded ?_ h.keys_dataSet
  refine ⟨?_, ?_, h.grouping_wellFormed, ?_⟩
  · exact Condition.ofJson_toJson_of_isWellFormed
      h.condition_wellFormed
  · exact Selection.ofJson_toJson h.selection_wellFormed
  · intro column hMem
    rw [Request.checkColumn_eq_ok_iff]
    exact ⟨fun grouping hGrouping =>
        h.provides_columns grouping hGrouping column hMem,
      fun hNone => h.columns_stored hNone column hMem⟩

/-
  The queries that are read from documents are those that are
  well formed.
-/
theorem isStated_iff_isWellFormed {query : Query} :
    query.IsStated ↔ query.IsWellFormed := by
  constructor
  · exact IsStated.isWellFormed
  · intro h
    exact ⟨query.toJson, query.decoded_toJson, h.ofJson_toJson⟩

end Query

end Registrar
