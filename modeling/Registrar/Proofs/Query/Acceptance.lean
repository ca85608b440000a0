import Registrar.Proofs.Query.Grammar

/-
  This file proves that queries are read from exactly the
  documents of the grammar.

  A grouping provides the columns whose texts it names, so that
  the check of the columns is a check of texts.

  Main statements:
    * `Grouping.provides_iff`
    * `Query.exists_ofJson_on_iff`
    * `Query.exists_ofJson_iff_isQuery`
-/

------------------------------------------------------------
-- Columns That Are Provided
------------------------------------------------------------

namespace Registrar

/-
  A grouping provides the columns whose texts are among those of
  its keys and the names of its rules.
-/
theorem Grouping.provides_iff
    {grouping : Grouping}
    {column : Column}
    (hGrouping : grouping.IsWellFormed)
    (hColumn : column.IsWellFormed) :
    grouping.provides column = true ↔
      column.text ∈ grouping.keys.map Key.text ∨
        column.text ∈ grouping.rules.map AppliedRule.name := by
  cases column with
  | stored key =>
      have hNotName :
          key.text ∉ grouping.rules.map AppliedRule.name := by
        intro hMem
        rcases List.mem_map.mp hMem with ⟨rule, hRule, hEq⟩
        have hName :=
          (hGrouping.rules_wellFormed rule hRule).name_wellFormed
        exact hName.2 (hEq ▸ key.underscore_mem_text)
      have hText : key.text ∈ grouping.keys.map Key.text ↔
          key ∈ grouping.keys := by
        refine ⟨?_, List.mem_map_of_mem⟩
        intro hMem
        rcases List.mem_map.mp hMem with ⟨other, hOther, hEq⟩
        have hInj : Column.stored other = .stored key :=
          Column.text_inj
            (hGrouping.keys_wellFormed other hOther) hColumn hEq
        rwa [← Column.stored.inj hInj]
      simp [provides, Column.text, hNotName, hText]
  | applied name =>
      have hNotKey : name ∉ grouping.keys.map Key.text := by
        intro hMem
        rcases List.mem_map.mp hMem with ⟨key, -, rfl⟩
        exact hColumn.2 key.underscore_mem_text
      simp [provides, Column.text, hNotKey]

------------------------------------------------------------
-- Queries
------------------------------------------------------------

namespace Query

/- The document of a query on a data set is of the grammar. -/
private theorem isQuery_of_ofJson
    {document : Json}
    {query : Query}
    (hDecoded : document.Decoded)
    (h : ofJson document = .ok query) :
    Grammar.IsQuery query.dataSet document := by
  have hQuery : query.IsWellFormed :=
    IsStated.isWellFormed ⟨document, hDecoded, h⟩
  have hId := hQuery.dataSet_wellFormed
  rcases (ofJson_eq_ok_iff hDecoded).mp h with
    ⟨-, condition, selection, rfl, hStated⟩
  rcases Request.forall_mem_keys_iff.mp hQuery.keys_dataSet with
    ⟨hConditionKeys, hSelectionKeys, hGroupingKeys⟩
  have hCondition := (Grammar.isQueryCondition_iff hId).mpr
    ⟨_, hStated.condition_read, hConditionKeys⟩
  rcases (Selection.ofJson_eq_ok_iff
      (Request.decoded_parts hDecoded).2).mp
      hStated.selection_read with
    ⟨hWellFormed, shown, hTexts, rfl⟩
  have hSelection := (Grammar.isSelection_iff hId).mpr
    ⟨_, hWellFormed, hTexts, rfl, hSelectionKeys⟩
  rcases query with ⟨⟨c, s, _ | grouping⟩, id⟩
  · refine .plain hCondition hSelection ?_
    intro name hMem
    rcases (Grammar.mem_shown_iff hTexts).mp hMem with
      ⟨column, rfl, hColumn⟩
    rcases hQuery.columns_stored rfl column hColumn with
      ⟨key, rfl⟩
    refine Grammar.isKey_iff.mpr ⟨key, rfl, ?_⟩
    apply hSelectionKeys
    exact List.mem_append_left _
      (List.mem_filterMap.mpr ⟨_, hColumn, rfl⟩)
  · have hProvided := hQuery.grouping_wellFormed grouping rfl
    have hGrouping := (Grammar.isGrouping_iff hId).mpr
      ⟨grouping, hProvided, rfl, rfl, rfl,
        hGroupingKeys grouping rfl⟩
    refine .grouped hCondition hSelection hGrouping ?_
    intro name hMem
    rcases (Grammar.mem_shown_iff hTexts).mp hMem with
      ⟨column, rfl, hColumn⟩
    exact (Grouping.provides_iff hProvided
      (hWellFormed.columns_wellFormed column hColumn)).mp
      (hQuery.provides_columns grouping rfl column hColumn)

/-
  A query on a data set is read from a document that names its
  columns, if these can be shown.
-/
private theorem ofJson_of_parts
    {query : Query}
    {condition : Json}
    {shown : List String}
    (hDecoded :
      (Json.object (query.toRequest.membersWith condition
        (.object
          (query.selection.membersShowing shown)))).Decoded)
    (hCondition :
      Condition.ofJson condition = .ok query.condition)
    (hSelection : query.selection.IsWellFormed)
    (hTexts : shown.eraseDups =
      query.selection.columns.map Column.text)
    (hGrouping : ∀ grouping ∈ query.grouping,
      grouping.IsWellFormed)
    (hColumns : ∀ column ∈ query.selection.columns,
      column.text ∈ shown →
        Request.checkColumn query.grouping column = .ok ())
    (hKeys : ∀ key ∈ query.keys,
      key.dataSet = query.dataSet) :
    ofJson
        (.object (query.toRequest.membersWith condition
          (.object (query.selection.membersShowing shown)))) =
      .ok query := by
  have hRead := (Selection.ofJson_eq_ok_iff
    (Request.decoded_parts hDecoded).2).mpr
    ⟨hSelection, shown, hTexts, rfl⟩
  apply ofJson_of_statedBy hDecoded ?_ hKeys
  refine ⟨hCondition, hRead, hGrouping, ?_⟩
  intro column hMem
  exact hColumns column hMem
    ((Grammar.mem_shown_iff hTexts).mpr ⟨column, rfl, hMem⟩)

/- From a document of the grammar a query is read. -/
private theorem exists_ofJson_of_isQuery
    {id : String}
    {document : Json}
    (hDecoded : document.Decoded)
    (hId : IsDataSetId id)
    (h : Grammar.IsQuery id document) :
    ∃ query, ofJson document = .ok query ∧
      query.dataSet = id := by
  cases h with
  | @plain shown condition selection hCondition hSelection
      hShown =>
      rcases (Grammar.isQueryCondition_iff hId).mp hCondition with
        ⟨c, hRead, hConditionKeys⟩
      rcases (Grammar.isSelection_iff hId).mp hSelection with
        ⟨s, hWellFormed, hTexts, rfl, hSelectionKeys⟩
      let query : Query := ⟨⟨c, s, none⟩, id⟩
      refine ⟨query, @ofJson_of_parts query condition shown
        hDecoded hRead hWellFormed hTexts ?_ ?_ ?_, rfl⟩
      · simp [query]
      · intro column hMem hText
        refine Request.checkColumn_eq_ok_iff.mpr
          ⟨by simp [query], fun _ => ?_⟩
        rcases Grammar.isKey_iff.mp (hShown _ hText) with
          ⟨key, hEq, rfl⟩
        exact ⟨key, Column.text_inj
          (hWellFormed.columns_wellFormed column hMem) hId hEq⟩
      · exact Request.forall_mem_keys_iff.mpr
          ⟨hConditionKeys, hSelectionKeys, by simp [query]⟩
  | @grouped shown grouped names condition selection grouping
      hCondition hSelection hGrouping hShown =>
      rcases (Grammar.isQueryCondition_iff hId).mp hCondition with
        ⟨c, hRead, hConditionKeys⟩
      rcases (Grammar.isSelection_iff hId).mp hSelection with
        ⟨s, hWellFormed, hTexts, rfl, hSelectionKeys⟩
      rcases (Grammar.isGrouping_iff hId).mp hGrouping with
        ⟨g, hProvided, rfl, rfl, rfl, hGroupingKeys⟩
      let query : Query := ⟨⟨c, s, some g⟩, id⟩
      refine ⟨query, @ofJson_of_parts query condition shown
        hDecoded hRead hWellFormed hTexts ?_ ?_ ?_, rfl⟩
      · simpa [query] using hProvided
      · intro column hMem hText
        have hColumn : g.provides column = true :=
          (Grouping.provides_iff hProvided
            (hWellFormed.columns_wellFormed column hMem)).mpr
            (hShown _ hText)
        exact Request.checkColumn_eq_ok_iff.mpr
          ⟨by simpa [query] using hColumn, by simp [query]⟩
      · exact Request.forall_mem_keys_iff.mpr
          ⟨hConditionKeys, hSelectionKeys, by
            simpa [query] using hGroupingKeys⟩

/-
  From a decoded document a query on a data set is read if the
  id can name one and the document is of the grammar.
-/
theorem exists_ofJson_on_iff
    {id : String}
    {document : Json}
    (hDecoded : document.Decoded) :
    (∃ query, ofJson document = .ok query ∧
        query.dataSet = id) ↔
      IsDataSetId id ∧ Grammar.IsQuery id document := by
  constructor
  · rintro ⟨query, hRead, rfl⟩
    have hQuery : query.IsWellFormed :=
      IsStated.isWellFormed ⟨document, hDecoded, hRead⟩
    exact ⟨hQuery.dataSet_wellFormed,
      isQuery_of_ofJson hDecoded hRead⟩
  · rintro ⟨hId, hQuery⟩
    exact exists_ofJson_of_isQuery hDecoded hId hQuery

/-
  Queries are read from the decoded documents of the grammar and
  from no others.
-/
theorem exists_ofJson_iff_isQuery
    {document : Json}
    (hDecoded : document.Decoded) :
    (∃ query, ofJson document = .ok query) ↔
      ∃ id, IsDataSetId id ∧ Grammar.IsQuery id document := by
  simp only [← exists_ofJson_on_iff hDecoded]
  constructor
  · rintro ⟨query, hRead⟩
    exact ⟨query.dataSet, query, hRead, rfl⟩
  · rintro ⟨id, query, hRead, -⟩
    exact ⟨query, hRead⟩

/- One of them asks for courses whose titles hold no b. -/
theorem exists_ofJson_iff_isQuery_courses :
    let selection := Json.object
      [("COLUMNS", Json.ofTexts ["ubc_dept", "n"]),
        ("ORDER", .text "n")]
    let grouping := Json.object
      [("APPLY",
          .list
            [Json.single "n"
              (Json.single "COUNT" (.text "ubc_year"))]),
        ("GROUP", Json.ofTexts ["ubc_dept"])]
    let condition := Json.single "NOT"
      (Json.single "IS" (Json.single "ubc_title" (.text "*b*")))
    let document := Json.object
      [("OPTIONS", selection), ("TRANSFORMATIONS", grouping),
        ("WHERE", condition)]
    document.Decoded ∧ ∃ query, ofJson document = .ok query := by
  intro selection grouping condition document
  have hDecoded : document.Decoded := by
    have hParts :
        ["OPTIONS", "TRANSFORMATIONS", "WHERE"].Pairwise
          (· < ·) := by
      decide
    have hSelection : selection.Decoded := by
      have hNames : ["COLUMNS", "ORDER"].Pairwise (· < ·) := by
        decide
      refine Json.decoded_object hNames ?_
      simp [Json.decoded_ofTexts, Json.Decoded]
    have hGrouping : grouping.Decoded := by
      have hNames : ["APPLY", "GROUP"].Pairwise (· < ·) := by
        decide
      refine Json.decoded_object hNames ?_
      simp [Json.decoded_ofTexts, Json.decoded_single_iff,
        Json.Decoded, Json.DecodedItems]
    have hCondition : condition.Decoded := by
      simp [condition, Json.decoded_single_iff, Json.Decoded]
    refine Json.decoded_object hParts ?_
    simp [hSelection, hGrouping, hCondition]
  refine ⟨hDecoded, (exists_ofJson_iff_isQuery hDecoded).mpr
    ⟨"ubc", by decide, ?_⟩⟩
  have hDept : Grammar.IsKey "ubc" "ubc_dept" := ⟨.dept, rfl⟩
  have hName : IsAppliedName "n" := by decide
  have hRule : Grammar.IsRuleBody "ubc"
      (Json.single "COUNT" (.text "ubc_year")) :=
    .intro (by decide) ⟨.year, rfl⟩
  have hCondition : Grammar.IsCondition "ubc" condition :=
    .negation (.likeness ⟨.title, rfl, rfl⟩ (by decide))
  have hSelection :
      Grammar.IsSelection "ubc" ["ubc_dept", "n"] selection := by
    refine .ordered (by decide) ?_ (.single (by decide))
    simp [Grammar.IsColumn, hDept, hName]
  have hGrouping :
      Grammar.IsGrouping "ubc" ["ubc_dept"] ["n"] grouping :=
    @Grammar.IsGrouping.intro "ubc" ["ubc_dept"] [("n", _)]
      (by decide) (by simpa using hDept)
      (by simpa using ⟨hName, hRule⟩) (by decide)
  exact .grouped (.inr hCondition) hSelection hGrouping
    (by decide)

end Query

end Registrar
