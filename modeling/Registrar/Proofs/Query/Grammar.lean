import Registrar.Proofs.Query.WellFormed

/-
  This file gives the grammar of query documents, and proves of
  each part which documents of it there are: those from which
  the part is read.

  The grammar tells by rules which documents there are, and
  says nothing of what is read from them.  All keys of a query
  name one data set, so the rules go by its id.

  Key definitions include:
    * `Grammar.IsCondition`
    * `Grammar.IsSelection`
    * `Grammar.IsGrouping`
    * `Grammar.IsQuery`

  Main statements:
    * `Grammar.isQueryCondition_iff`
    * `Grammar.isSelection_iff`
    * `Grammar.isGrouping_iff`
-/

------------------------------------------------------------
-- The Grammar Of Conditions
------------------------------------------------------------

namespace Registrar

namespace Grammar

/- The text of a field of the data set. -/
def IsKey
    (id input : String) : Prop :=
  ∃ field : Field, input = id ++ "_" ++ field.label

/- The text of a field with values of one domain. -/
def IsKeyIn
    (id : String)
    (domain : Domain)
    (input : String) : Prop :=
  ∃ field : Field, field.domain = domain ∧
    input = id ++ "_" ++ field.label

/- A document that is a number. -/
inductive IsNumber : Json → Prop
| integer (n : Int) : IsNumber (.integer n)
| float (x : Binary64) : IsNumber (.float x)

/-
  A condition below the top: an object with one member, whose
  name is one of seven words.  An asterisk may open or close a
  pattern, and not stand within it.
-/
inductive IsCondition (id : String) : Json → Prop
| junction
    {word : String}
    {items : List Json}
    (hWord : word ∈ ["AND", "OR"])
    (hNe : items ≠ [])
    (hItems : ∀ item ∈ items, IsCondition id item) :
    IsCondition id (.object [(word, .list items)])
| comparison
    {word input : String}
    {operand : Json}
    (hWord : word ∈ ["LT", "GT", "EQ"])
    (hInput : IsKeyIn id .numeric input)
    (hOperand : IsNumber operand) :
    IsCondition id
      (.object [(word, .object [(input, operand)])])
| likeness
    {input pattern : String}
    (hInput : IsKeyIn id .textual input)
    (hPattern : '*' ∉ pattern.toList.tail.dropLast) :
    IsCondition id
      (.object [("IS", .object [(input, .text pattern)])])
| negation
    {item : Json}
    (hItem : IsCondition id item) :
    IsCondition id (.object [("NOT", item)])

/- The condition of a query, which only there may be empty. -/
def IsQueryCondition
    (id : String)
    (document : Json) : Prop :=
  document = .object [] ∨ IsCondition id document

------------------------------------------------------------
-- The Grammar Of Selections And Groupings
------------------------------------------------------------

/- A sorting by some of the columns that are shown. -/
inductive IsSorting (shown : List String) : Json → Prop
| single
    {name : String}
    (hName : name ∈ shown) :
    IsSorting shown (.text name)
| several
    {word : String}
    {names : List String}
    (hWord : word ∈ ["UP", "DOWN"])
    (hNe : names ≠ [])
    (hNames : ∀ name ∈ names, name ∈ shown) :
    IsSorting shown
      (.object
        [("dir", .text word), ("keys", Json.ofTexts names)])

/- A text that a result can show: a key, or a name. -/
def IsColumn
    (id input : String) : Prop :=
  IsKey id input ∨ IsAppliedName input

/- A selection that shows these columns. -/
inductive IsSelection
    (id : String)
    (shown : List String) : Json → Prop
| unordered
    (hNe : shown ≠ [])
    (hShown : ∀ name ∈ shown, IsColumn id name) :
    IsSelection id shown
      (.object [("COLUMNS", Json.ofTexts shown)])
| ordered
    {sorting : Json}
    (hNe : shown ≠ [])
    (hShown : ∀ name ∈ shown, IsColumn id name)
    (hSorting : IsSorting shown sorting) :
    IsSelection id shown
      (.object
        [("COLUMNS", Json.ofTexts shown), ("ORDER", sorting)])

/- What a rule computes: an aggregate of a key's values. -/
inductive IsRuleBody (id : String) : Json → Prop
| intro
    {word input : String}
    (hWord : word ∈ ["MAX", "MIN", "AVG", "COUNT", "SUM"])
    (hInput : IsKey id input) :
    IsRuleBody id (.object [(word, .text input)])

/- A grouping by these keys, with rules of these names. -/
inductive IsGrouping
    (id : String) :
    List String → List String → Json → Prop
| intro
    {grouped : List String}
    {rules : List (String × Json)}
    (hNe : grouped ≠ [])
    (hGrouped : ∀ input ∈ grouped, IsKey id input)
    (hRules : ∀ rule ∈ rules,
      IsAppliedName rule.1 ∧ IsRuleBody id rule.2)
    (hNodup : (rules.map Prod.fst).Nodup) :
    IsGrouping id grouped (rules.map Prod.fst)
      (.object
        [("APPLY", .list (rules.map fun rule => .object [rule])),
          ("GROUP", Json.ofTexts grouped)])

------------------------------------------------------------
-- The Grammar Of Queries
------------------------------------------------------------

/-
  A query on a data set.  Without a grouping it shows keys, and
  with one what the grouping provides.
-/
inductive IsQuery (id : String) : Json → Prop
| plain
    {shown : List String}
    {condition selection : Json}
    (hCondition : IsQueryCondition id condition)
    (hSelection : IsSelection id shown selection)
    (hShown : ∀ name ∈ shown, IsKey id name) :
    IsQuery id
      (.object [("OPTIONS", selection), ("WHERE", condition)])
| grouped
    {shown grouped names : List String}
    {condition selection grouping : Json}
    (hCondition : IsQueryCondition id condition)
    (hSelection : IsSelection id shown selection)
    (hGrouping : IsGrouping id grouped names grouping)
    (hShown : ∀ name ∈ shown, name ∈ grouped ∨ name ∈ names) :
    IsQuery id
      (.object
        [("OPTIONS", selection), ("TRANSFORMATIONS", grouping),
          ("WHERE", condition)])

------------------------------------------------------------
-- Words And Keys
------------------------------------------------------------

/- A word is one of all words if something has the word. -/
private theorem mem_words_iff
    {α : Type}
    {all : List α}
    {word : String}
    (f : α → String)
    (hAll : ∀ x, x ∈ all) :
    word ∈ all.map f ↔ ∃ x, word = f x := by
  rw [List.mem_map]
  constructor
  · rintro ⟨x, -, rfl⟩
    exact ⟨x, rfl⟩
  · rintro ⟨x, rfl⟩
    exact ⟨x, hAll x, rfl⟩

private theorem mem_connectives_iff {word : String} :
    word ∈ ["AND", "OR"] ↔
      ∃ connective : Connective, word = connective.clause := by
  have hAll : ∀ connective : Connective,
      connective ∈ [Connective.all, .any] := by
    intro connective
    cases connective <;> decide
  exact mem_words_iff Connective.clause hAll

private theorem mem_relations_iff {word : String} :
    word ∈ ["LT", "GT", "EQ"] ↔
      ∃ relation : Relation, word = relation.clause := by
  have hAll : ∀ relation : Relation,
      relation ∈ [Relation.below, .above, .equal] := by
    intro relation
    cases relation <;> decide
  exact mem_words_iff Relation.clause hAll

private theorem mem_directions_iff {word : String} :
    word ∈ ["UP", "DOWN"] ↔
      ∃ direction : Direction, word = direction.word := by
  have hAll : ∀ direction : Direction,
      direction ∈ [Direction.up, .down] := by
    intro direction
    cases direction <;> decide
  exact mem_words_iff Direction.word hAll

private theorem mem_aggregates_iff {word : String} :
    word ∈ ["MAX", "MIN", "AVG", "COUNT", "SUM"] ↔
      ∃ aggregate : Aggregate, word = aggregate.word := by
  have hAll : ∀ aggregate, aggregate ∈ Aggregate.all := by
    intro aggregate
    cases aggregate <;> decide
  exact mem_words_iff Aggregate.word hAll

/- The texts of a data set's fields are those of its keys. -/
theorem isKey_iff
    {id input : String} :
    IsKey id input ↔
      ∃ key : Key, input = key.text ∧ key.dataSet = id := by
  constructor
  · rintro ⟨field, rfl⟩
    exact ⟨⟨id, field⟩, rfl, rfl⟩
  · rintro ⟨key, rfl, rfl⟩
    exact ⟨key.field, rfl⟩

/- The texts of one domain are those of its keys. -/
theorem isKeyIn_iff
    {id input : String}
    {domain : Domain} :
    IsKeyIn id domain input ↔
      ∃ key : Key, input = key.text ∧ key.dataSet = id ∧
        key.field.domain = domain := by
  constructor
  · rintro ⟨field, hDomain, rfl⟩
    exact ⟨⟨id, field⟩, rfl, rfl, hDomain⟩
  · rintro ⟨key, rfl, rfl, hDomain⟩
    exact ⟨key.field, hDomain, rfl⟩

/- The texts that a result can show are those of columns. -/
theorem isColumn_iff
    {id input : String}
    (hId : IsDataSetId id) :
    IsColumn id input ↔
      ∃ column : Column, input = column.text ∧
        column.IsWellFormed ∧
        ∀ key ∈ column.key?, key.dataSet = id := by
  unfold IsColumn
  rw [isKey_iff]
  constructor
  · rintro (⟨key, rfl, rfl⟩ | hName)
    · refine ⟨.stored key, rfl, hId, ?_⟩
      rintro other hOther
      rw [Option.some.inj hOther]
    · exact ⟨.applied input, rfl, hName, by simp [Column.key?]⟩
  · rintro ⟨column, rfl, hColumn, hKey⟩
    cases column with
    | stored key => exact .inl ⟨key, rfl, hKey key rfl⟩
    | applied name => exact .inr hColumn

/- The documents that are numbers have a value. -/
theorem isNumber_iff {document : Json} :
    IsNumber document ↔ ∃ x, document.number? = some x := by
  constructor
  · intro h
    cases h with
    | integer n => exact ⟨_, rfl⟩
    | float x => exact ⟨x, rfl⟩
  · rintro ⟨x, h⟩
    cases document with
    | integer n => exact .integer n
    | float y => exact .float y
    | _ => cases h

------------------------------------------------------------
-- Conditions
------------------------------------------------------------

/- Items that state conditions each do so as a list. -/
private theorem exists_allStated
    {id : String}
    {items : List Json}
    (h : ∀ item ∈ items, ∃ members condition,
      item = .object members ∧
        Condition.Stated members condition ∧
        ∀ key ∈ condition.keys, key.dataSet = id) :
    ∃ operands, Condition.AllStated items operands ∧
      ∀ key ∈ Condition.keysOfAll operands,
        key.dataSet = id := by
  induction items with
  | nil => exact ⟨[], .nil, List.forall_mem_nil _⟩
  | cons item rest ih =>
      rcases List.forall_mem_cons.mp h with
        ⟨⟨members, condition, rfl, hStated, hKeys⟩, hRest⟩
      rcases ih hRest with ⟨operands, hOperands, hLater⟩
      refine ⟨condition :: operands, .cons hStated hOperands, ?_⟩
      rw [Condition.keysOfAll]
      exact List.forall_mem_append.mpr ⟨hKeys, hLater⟩

/- A document of the grammar states a condition. -/
theorem exists_stated_of_isCondition
    {id : String}
    {document : Json}
    (hId : IsDataSetId id)
    (h : IsCondition id document) :
    ∃ members condition, document = .object members ∧
      Condition.Stated members condition ∧
      ∀ key ∈ condition.keys, key.dataSet = id := by
  induction h with
  | @junction word items hWord hNe _ ih =>
      rcases mem_connectives_iff.mp hWord with ⟨connective, rfl⟩
      rcases exists_allStated ih with ⟨operands, hItems, hKeys⟩
      exact ⟨_, _, rfl, .junction hNe hItems, by
        simpa only [Condition.keys] using hKeys⟩
  | @comparison word input operand hWord hInput hOperand =>
      rcases mem_relations_iff.mp hWord with ⟨relation, rfl⟩
      rcases isKeyIn_iff.mp hInput with
        ⟨key, rfl, rfl, hDomain⟩
      rcases isNumber_iff.mp hOperand with ⟨x, hNumber⟩
      refine ⟨_, _, rfl, .comparison hId hDomain hNumber, ?_⟩
      simp [Condition.keys]
  | @likeness input pattern hInput hPattern =>
      rcases isKeyIn_iff.mp hInput with
        ⟨key, rfl, rfl, hDomain⟩
      rcases Pattern.exists_parse_eq_some_iff.mpr hPattern with
        ⟨p, hParse⟩
      refine ⟨_, _, rfl, .likeness hId hDomain hParse, ?_⟩
      simp [Condition.keys]
  | @negation item _ ih =>
      rcases ih with ⟨members, condition, rfl, hStated, hKeys⟩
      exact ⟨_, _, rfl, .negation hStated, by
        simpa only [Condition.keys] using hKeys⟩

mutual

/- Members that state a condition are of the grammar. -/
theorem isCondition_of_stated
    {id : String}
    {members : List (String × Json)}
    {condition : Condition}
    (h : Condition.Stated members condition)
    (hKeys : ∀ key ∈ condition.keys, key.dataSet = id) :
    IsCondition id (.object members) := by
  cases h with
  | junction hNe hItems =>
      rw [Condition.keys] at hKeys
      exact .junction (mem_connectives_iff.mpr ⟨_, rfl⟩) hNe
        (isCondition_of_allStated hItems hKeys)
  | @comparison relation key document operand hKey hDomain
      hOperand =>
      have hOn := hKeys key (by simp [Condition.keys])
      exact .comparison (mem_relations_iff.mpr ⟨_, rfl⟩)
        (isKeyIn_iff.mpr ⟨key, rfl, hOn, hDomain⟩)
        (isNumber_iff.mpr ⟨operand, hOperand⟩)
  | @likeness key input pattern hKey hDomain hPattern =>
      have hOn := hKeys key (by simp [Condition.keys])
      exact .likeness
        (isKeyIn_iff.mpr ⟨key, rfl, hOn, hDomain⟩)
        (Pattern.exists_parse_eq_some_iff.mp
          ⟨pattern, hPattern⟩)
  | negation hOperand =>
      rw [Condition.keys] at hKeys
      exact .negation (isCondition_of_stated hOperand hKeys)

private theorem isCondition_of_allStated
    {id : String}
    {items : List Json}
    {operands : List Condition}
    (h : Condition.AllStated items operands)
    (hKeys : ∀ key ∈ Condition.keysOfAll operands,
      key.dataSet = id) :
    ∀ item ∈ items, IsCondition id item := by
  cases h with
  | nil => exact List.forall_mem_nil _
  | cons hHead hTail =>
      rw [Condition.keysOfAll] at hKeys
      rcases List.forall_mem_append.mp hKeys with
        ⟨hFirst, hLater⟩
      exact List.forall_mem_cons.mpr
        ⟨isCondition_of_stated hHead hFirst,
          isCondition_of_allStated hTail hLater⟩

end

/-
  The conditions of the grammar are those from which a condition
  on the data set is read.
-/
theorem isQueryCondition_iff
    {id : String}
    {document : Json}
    (hId : IsDataSetId id) :
    IsQueryCondition id document ↔
      ∃ condition, Condition.ofJson document = .ok condition ∧
        ∀ key ∈ condition.keys, key.dataSet = id := by
  simp only [Condition.ofJson_eq_ok_iff]
  constructor
  · rintro (rfl | h)
    · exact ⟨.always, .inl ⟨rfl, rfl⟩, by simp [Condition.keys]⟩
    · rcases exists_stated_of_isCondition hId h with
        ⟨members, condition, rfl, hStated, hKeys⟩
      exact ⟨condition, .inr ⟨members, rfl, hStated⟩, hKeys⟩
  · rintro ⟨condition, ⟨rfl, rfl⟩ | ⟨members, rfl, hStated⟩,
      hKeys⟩
    · exact .inl rfl
    · exact .inr (isCondition_of_stated hStated hKeys)

------------------------------------------------------------
-- Selections
------------------------------------------------------------

/- The texts that are shown are those of the columns. -/
theorem mem_shown_iff
    {shown : List String}
    {columns : List Column}
    (hTexts : shown.eraseDups = columns.map Column.text)
    {name : String} :
    name ∈ shown ↔
      ∃ column, name = column.text ∧ column ∈ columns := by
  rw [← List.mem_eraseDups, hTexts, List.mem_map]
  simp only [and_comm, eq_comm]

private theorem isSorting_iff
    {shown : List String}
    {columns : List Column}
    {document : Json}
    (hTexts : shown.eraseDups = columns.map Column.text) :
    IsSorting shown document ↔
      ∃ sorting : Sorting, document = sorting.toJson ∧
        sorting.columns ≠ [] ∧ sorting.columns ⊆ columns := by
  constructor
  · intro h
    cases h with
    | single hName =>
        rcases (mem_shown_iff hTexts).mp hName with
          ⟨column, rfl, hColumn⟩
        refine ⟨.single column, rfl, List.cons_ne_nil _ _, ?_⟩
        rintro other hMem
        rwa [List.mem_singleton.mp hMem]
    | several hWord hNe hNames =>
        rcases mem_directions_iff.mp hWord with ⟨direction, rfl⟩
        rcases exists_eq_map_iff.mpr fun name hMem =>
            (mem_shown_iff hTexts).mp (hNames name hMem) with
          ⟨others, rfl, hOthers⟩
        refine ⟨.several direction others, rfl, ?_, hOthers⟩
        rintro rfl
        exact hNe rfl
  · rintro ⟨sorting, rfl, hNe, hColumns⟩
    cases sorting with
    | single column =>
        refine .single
          ((mem_shown_iff hTexts).mpr ⟨column, rfl, ?_⟩)
        exact hColumns List.mem_cons_self
    | several direction others =>
        refine .several (mem_directions_iff.mpr ⟨_, rfl⟩) ?_ ?_
        · simpa [Sorting.columns] using hNe
        · intro name hMem
          rcases List.mem_map.mp hMem with ⟨column, hColumn, rfl⟩
          exact (mem_shown_iff hTexts).mpr
            ⟨column, rfl, hColumns hColumn⟩

/- A selection of columns of a data set is on the data set. -/
private theorem isWellFormed_of_columns
    {id : String}
    {shown : List String}
    {selection : Selection}
    (hNe : shown ≠ [])
    (hTexts :
      shown.eraseDups = selection.columns.map Column.text)
    (hColumns : ∀ column ∈ selection.columns,
      column.IsWellFormed ∧
        ∀ key ∈ column.key?, key.dataSet = id)
    (hSorting : ∀ sorting ∈ selection.sorting,
      sorting.columns ≠ [] ∧
        sorting.columns ⊆ selection.columns) :
    selection.IsWellFormed ∧
      ∀ key ∈ selection.keys, key.dataSet = id := by
  have hSubset :
      selection.sortingColumns ⊆ selection.columns := by
    unfold Selection.sortingColumns
    split
    · exact List.nil_subset _
    · next sorting hSome => exact (hSorting sorting hSome).2
  constructor
  · refine ⟨?_, fun column hMem => (hColumns column hMem).1, ?_,
      fun sorting hMem => (hSorting sorting hMem).1, hSubset⟩
    · intro hNil
      rcases List.exists_mem_of_ne_nil _ hNe with ⟨name, hMem⟩
      rcases (mem_shown_iff hTexts).mp hMem with
        ⟨column, -, hColumn⟩
      rw [hNil] at hColumn
      cases hColumn
    · rw [← hTexts]
      exact nodup_eraseDups shown
  · intro key hMem
    rcases List.mem_append.mp hMem with hShown | hOrdered
    · rcases List.mem_filterMap.mp hShown with
        ⟨column, hColumn, hKey⟩
      exact (hColumns column hColumn).2 key hKey
    · rcases List.mem_filterMap.mp hOrdered with
        ⟨column, hColumn, hKey⟩
      exact (hColumns column (hSubset hColumn)).2 key hKey

/-
  The selections of the grammar are those that name the columns
  of a selection from the data set.
-/
theorem isSelection_iff
    {id : String}
    {shown : List String}
    {document : Json}
    (hId : IsDataSetId id) :
    IsSelection id shown document ↔
      ∃ selection : Selection, selection.IsWellFormed ∧
        shown.eraseDups = selection.columns.map Column.text ∧
        document = .object (selection.membersShowing shown) ∧
        ∀ key ∈ selection.keys, key.dataSet = id := by
  constructor
  · intro h
    have hColumns : (∀ name ∈ shown, IsColumn id name) →
        ∃ columns : List Column,
          shown.eraseDups = columns.map Column.text ∧
          ∀ column ∈ columns, column.IsWellFormed ∧
            ∀ key ∈ column.key?, key.dataSet = id := by
      intro hShown
      apply exists_eq_map_iff.mpr
      intro name hMem
      exact (isColumn_iff hId).mp
        (hShown name (List.mem_eraseDups.mp hMem))
    cases h with
    | unordered hNe hShown =>
        rcases hColumns hShown with ⟨columns, hTexts, hAll⟩
        rcases @isWellFormed_of_columns id shown ⟨columns, none⟩
            hNe hTexts hAll (by simp) with
          ⟨hSelection, hKeys⟩
        exact ⟨_, hSelection, hTexts, rfl, hKeys⟩
    | ordered hNe hShown hSorting =>
        rcases hColumns hShown with ⟨columns, hTexts, hAll⟩
        rcases (isSorting_iff hTexts).mp hSorting with
          ⟨sorting, rfl, hSome⟩
        rcases @isWellFormed_of_columns id shown
            ⟨columns, some sorting⟩ hNe hTexts hAll
            (by simpa using hSome) with
          ⟨hSelection, hKeys⟩
        exact ⟨_, hSelection, hTexts, rfl, hKeys⟩
  · rintro ⟨selection, hSelection, hTexts, rfl, hKeys⟩
    have hNe : shown ≠ [] := by
      rintro rfl
      exact hSelection.columns_ne_nil
        (List.map_eq_nil_iff.mp hTexts.symm)
    have hShown : ∀ name ∈ shown, IsColumn id name := by
      intro name hMem
      rcases (mem_shown_iff hTexts).mp hMem with
        ⟨column, rfl, hColumn⟩
      refine (isColumn_iff hId).mpr ⟨column, rfl,
        hSelection.columns_wellFormed _ hColumn, ?_⟩
      intro key hKey
      apply hKeys
      exact List.mem_append_left _
        (List.mem_filterMap.mpr ⟨column, hColumn, hKey⟩)
    rcases selection with ⟨columns, _ | sorting⟩
    · exact .unordered hNe hShown
    · refine .ordered hNe hShown
        ((isSorting_iff hTexts).mpr ⟨sorting, rfl, ?_, ?_⟩)
      · exact hSelection.sorting_ne_nil sorting rfl
      · exact hSelection.sorting_subset

------------------------------------------------------------
-- Groupings
------------------------------------------------------------

/- The one member of a rule's document. -/
private def ruleMember (rule : AppliedRule) : String × Json :=
  (rule.name,
    Json.single rule.aggregate.word (.text rule.key.text))

private theorem isRule_iff
    {id : String}
    {member : String × Json}
    (hId : IsDataSetId id) :
    IsAppliedName member.1 ∧ IsRuleBody id member.2 ↔
      ∃ rule, member = ruleMember rule ∧
        rule.IsWellFormed ∧ rule.key.dataSet = id := by
  rcases member with ⟨name, body⟩
  constructor
  · rintro ⟨hName, ⟨hWord, hInput⟩⟩
    rcases mem_aggregates_iff.mp hWord with ⟨aggregate, rfl⟩
    rcases isKey_iff.mp hInput with ⟨key, rfl, rfl⟩
    exact ⟨⟨name, aggregate, key⟩, rfl, ⟨hName, hId⟩, rfl⟩
  · rintro ⟨rule, hEq, hRule, hKey⟩
    cases hEq
    exact ⟨hRule.name_wellFormed,
      .intro (mem_aggregates_iff.mpr ⟨_, rfl⟩)
        (isKey_iff.mpr ⟨rule.key, rfl, hKey⟩)⟩

/-
  The groupings of the grammar are the documents of groupings
  on the data set.
-/
theorem isGrouping_iff
    {id : String}
    {grouped names : List String}
    {document : Json}
    (hId : IsDataSetId id) :
    IsGrouping id grouped names document ↔
      ∃ grouping : Grouping, grouping.IsWellFormed ∧
        grouped = grouping.keys.map Key.text ∧
        names = grouping.rules.map AppliedRule.name ∧
        document = grouping.toJson ∧
        ∀ key ∈ grouping.allKeys, key.dataSet = id := by
  have hNames : ∀ rules : List AppliedRule,
      (rules.map ruleMember).map Prod.fst =
        rules.map AppliedRule.name :=
    fun rules => List.map_map
  have hDocuments : ∀ rules : List AppliedRule,
      (rules.map ruleMember).map
          (fun member => Json.object [member]) =
        rules.map AppliedRule.toJson :=
    fun rules => List.map_map
  constructor
  · rintro ⟨hNe, hGrouped, hRules, hNodup⟩
    rcases exists_eq_map_iff.mpr fun input hMem =>
        isKey_iff.mp (hGrouped input hMem) with
      ⟨keys, rfl, hKeys⟩
    rcases exists_eq_map_iff.mpr fun member hMem =>
        (isRule_iff hId).mp (hRules member hMem) with
      ⟨rules, rfl, hAll⟩
    rw [hNames] at hNodup ⊢
    rw [hDocuments]
    refine ⟨⟨keys, rules⟩, ⟨?_, ?_, ?_, hNodup⟩, rfl, rfl, rfl,
      ?_⟩
    · rintro rfl
      exact hNe rfl
    · intro key hMem
      unfold Key.IsWellFormed
      rw [hKeys key hMem]
      exact hId
    · exact fun rule hMem => (hAll rule hMem).1
    · refine List.forall_mem_append.mpr ⟨hKeys, ?_⟩
      exact List.forall_mem_map.mpr fun rule hMem =>
        (hAll rule hMem).2
  · rintro ⟨⟨keys, rules⟩, hGrouping, rfl, rfl, rfl, hKeys⟩
    rcases List.forall_mem_append.mp hKeys with
      ⟨hGrouped, hTargets⟩
    rw [← hNames, Grouping.toJson, ← hDocuments]
    refine .intro ?_ ?_ ?_ ?_
    · simpa using hGrouping.keys_ne_nil
    · exact List.forall_mem_map.mpr fun key hMem =>
        isKey_iff.mpr ⟨key, rfl, hGrouped key hMem⟩
    · refine List.forall_mem_map.mpr fun rule hMem =>
        (isRule_iff hId).mpr ⟨rule, rfl, ?_, ?_⟩
      · exact hGrouping.rules_wellFormed rule hMem
      · exact hTargets _ (List.mem_map_of_mem hMem)
    · rw [hNames]
      exact hGrouping.names_nodup

end Grammar

end Registrar
