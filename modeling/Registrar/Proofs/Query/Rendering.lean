import Registrar.Json.Conversion
import Registrar.Proofs.Json.Rendering
import Registrar.Proofs.Query.RoundTrip

/-
  This file proves that queries that are written as text can be
  read again, by every conversion that gives their numbers back.
  A query that was read from text always can: its document is
  never nested more deeply than the one it was read from.

  Main statements:
    * `Json.nesting_tidied_le`
    * `Query.ofText_text`
    * `Query.ofText_text_iff`
-/

------------------------------------------------------------
-- The Nesting Of Tidied Documents
------------------------------------------------------------

namespace Registrar

namespace Json

/- Turning whole numbers into binary values opens nothing. -/
theorem nesting_binaryOperand (j : Json) :
    j.binaryOperand.nesting = j.nesting := by
  cases j <;> simp [binaryOperand, nesting]

theorem nesting_binaryOperands (j : Json) :
    j.binaryOperands.nesting = j.nesting := by
  cases j with
  | object members =>
      rw [binaryOperands, nesting, nesting]
      congr 1
      induction members with
      | nil => rfl
      | cons member rest ih =>
          rw [List.map_cons, nestingOfMembers, nestingOfMembers,
            nesting_binaryOperand, ih]
  | _ => rfl

mutual

/- A tidied condition is nested as before. -/
theorem nesting_tidyCondition :
    (j : Json) → j.tidyCondition.nesting = j.nesting
| .null => rfl
| .boolean _ => rfl
| .integer _ => rfl
| .float _ => rfl
| .text _ => rfl
| .list items => by
    rw [tidyCondition, nesting, nesting, nestingOfItems_tidyItems]
| .object members => by
    rw [tidyCondition, nesting, nesting,
      nestingOfMembers_tidyMembers]

private theorem nestingOfItems_tidyItems :
    (items : List Json) →
      nestingOfItems (tidyItems items) = nestingOfItems items
| [] => rfl
| item :: rest => by
    rw [tidyItems, nestingOfItems, nestingOfItems,
      nesting_tidyCondition item, nestingOfItems_tidyItems rest]

private theorem nestingOfMembers_tidyMembers :
    (members : List (String × Json)) →
      nestingOfMembers (tidyMembers members) =
        nestingOfMembers members
| [] => rfl
| (name, value) :: rest => by
    rw [tidyMembers, nestingOfMembers, nestingOfMembers,
      nestingOfMembers_tidyMembers rest]
    split
    · rw [nesting_binaryOperands]
    · rw [nesting_tidyCondition value]

end

private theorem nestingOfItems_mono
    {items others : List Json}
    (h : ∀ item ∈ items, item ∈ others) :
    nestingOfItems items ≤ nestingOfItems others := by
  have hOthers :=
    nestingOfItems_le_iff.mp (Nat.le_refl (nestingOfItems others))
  rw [nestingOfItems_le_iff]
  intro item hMem
  exact hOthers item (h item hMem)

/- Distinct items are items. -/
private theorem mem_of_mem_distinctItems
    {items : List Json}
    {item : Json}
    (h : item ∈ distinctItems items) :
    item ∈ items := by
  induction items with
  | nil => cases h
  | cons first rest ih =>
      rcases List.mem_cons.mp h with rfl | hRest
      · exact List.mem_cons_self
      · have hItem := ih (List.mem_of_mem_filter hRest)
        exact List.mem_cons_of_mem _ hItem

/- Without repeated items nothing is nested more deeply. -/
theorem nesting_distinct_le (j : Json) :
    j.distinct.nesting ≤ j.nesting := by
  cases j with
  | list items =>
      rw [distinct, nesting, nesting]
      apply Nat.succ_le_succ
      apply nestingOfItems_mono
      intro item hMem
      exact mem_of_mem_distinctItems hMem
  | _ => exact Nat.le_refl _

/- A change of one member deepens only what it deepens. -/
theorem nesting_mapMember_le
    {change : Json → Json}
    (h : ∀ j, (change j).nesting ≤ j.nesting)
    (name : String)
    (j : Json) :
    (j.mapMember name change).nesting ≤ j.nesting := by
  cases j with
  | object members =>
      rw [mapMember, nesting, nesting]
      apply Nat.succ_le_succ
      rw [nestingOfMembers_le_iff, List.forall_mem_map]
      intro member hMem
      have hOld := nestingOfMembers_le_iff.mp
        (Nat.le_refl (nestingOfMembers members)) member hMem
      dsimp only
      split
      · exact Nat.le_trans (h member.2) hOld
      · exact hOld
  | _ => exact Nat.le_refl _

/- A tidied document is not nested more deeply. -/
theorem nesting_tidied_le (j : Json) :
    j.tidied.nesting ≤ j.nesting := by
  have hColumns : ∀ j : Json,
      (j.mapMember "COLUMNS" distinct).nesting ≤ j.nesting :=
    nesting_mapMember_le nesting_distinct_le "COLUMNS"
  have hCondition : ∀ j : Json,
      j.tidyCondition.nesting ≤ j.nesting :=
    fun j => Nat.le_of_eq (nesting_tidyCondition j)
  calc j.tidied.nesting
      ≤ (j.mapMember "WHERE" tidyCondition).nesting :=
        nesting_mapMember_le hColumns "OPTIONS" _
    _ ≤ j.nesting := nesting_mapMember_le hCondition "WHERE" j

end Json

------------------------------------------------------------
-- Written Queries
------------------------------------------------------------

variable {convert : Json.Conversion}

/- The document of a selection holds no numbers. -/
private theorem Selection.readsBack_toJson (selection : Selection) :
    selection.toJson.ReadsBack convert := by
  rcases selection with ⟨columns, _ | _ | ⟨direction, sorted⟩⟩ <;>
    simp [toJson, Sorting.toJson, Column.listToJson,
      Json.readsBack_ofTexts, Json.ReadsBack, Json.MembersReadBack]

/- Nor does that of a grouping. -/
private theorem Grouping.readsBack_toJson (grouping : Grouping) :
    grouping.toJson.ReadsBack convert := by
  have hRules : Json.ItemsReadBack convert
      (grouping.rules.map AppliedRule.toJson) := by
    rw [Json.itemsReadBack_iff, List.forall_mem_map]
    intro rule _
    rw [AppliedRule.toJson, Json.readsBack_single_iff,
      Json.readsBack_single_iff]
    simp [Json.ReadsBack]
  have hKeys : (Json.ofTexts
      (grouping.keys.map Key.text)).ReadsBack convert :=
    Json.readsBack_ofTexts _
  simp [toJson, Json.ReadsBack, Json.MembersReadBack, hRules,
    hKeys]

namespace Query

/- The numbers of a query are those of its condition. -/
theorem readsBack_toJson_iff {query : Query} :
    query.toJson.ReadsBack convert ↔
      query.condition.toJson.ReadsBack convert := by
  have hSelection : query.selection.toJson.ReadsBack convert :=
    query.selection.readsBack_toJson
  rcases query with ⟨⟨condition, selection, _ | grouping⟩, id⟩
  · simp [toJson, Json.ReadsBack, Json.MembersReadBack,
      hSelection]
  · have hGrouping : grouping.toJson.ReadsBack convert :=
      grouping.readsBack_toJson
    simp [toJson, Json.ReadsBack, Json.MembersReadBack,
      hSelection, hGrouping]

/- A query is read from a document that its text holds. -/
theorem ofText_eq_ok_iff
    {input : String}
    {query : Query} :
    ofText convert input = .ok query ↔
      ∃ document,
        Json.ofText convert input = .ok document ∧
        ofJson document = .ok query := by
  unfold ofText
  cases Json.ofText convert input with
  | error e => simp
  | ok document => simp

/-
  A query that has been read from a document is read from its
  text, unless it is nested too deeply; nothing else can be
  wrong with the text.
-/
theorem ofText_text
    {document : Json}
    {query : Query}
    (hDecoded : document.Decoded)
    (h : ofJson document = .ok query)
    (hBack : query.toJson.ReadsBack convert) :
    ofText convert query.text =
      if query.toJson.nesting ≤ Json.nestingLimit then
        .ok query
      else
        .error (.malformed (.unreadable .nestedTooDeep)) := by
  unfold ofText text
  rw [Json.ofText_render query.decoded_toJson hBack]
  by_cases hDepth : query.toJson.nesting ≤ Json.nestingLimit
  · simp only [hDepth, if_true]
    exact ofJson_toJson hDecoded h
  · simp only [hDepth, if_false]

/-
  A query that has been read from text is read from its own
  text, and one that has been read from a document of any depth
  is so exactly if at most 127 arrays and objects are open at
  once in its own document.  A conversion that gives all finite
  numbers back gives back those of every query.
-/
theorem ofText_text_iff (convert : Json.Conversion) :
    ((∀ x : Binary64, x.IsFinite → convert x.wireNumeral = x) →
      ∀ query : Query, query.toJson.ReadsBack convert) ∧
    (∀ (input : String) (query : Query),
      ofText convert input = .ok query →
      query.toJson.ReadsBack convert →
        ofText convert query.text = .ok query) ∧
    (∀ (document : Json) (query : Query),
      document.Decoded →
      ofJson document = .ok query →
      query.toJson.ReadsBack convert →
        (ofText convert query.text = .ok query ↔
          query.toJson.nesting ≤ 127)) := by
  have hIff : ∀ (document : Json) (query : Query),
      document.Decoded →
      ofJson document = .ok query →
      query.toJson.ReadsBack convert →
        (ofText convert query.text = .ok query ↔
          query.toJson.nesting ≤ Json.nestingLimit) := by
    intro document query hDecoded hQuery hBack
    rw [ofText_text hDecoded hQuery hBack]
    split <;> simp_all
  refine ⟨fun hAll query => ?_, ?_, hIff⟩
  · exact query.decoded_toJson.readsBack hAll
  intro input query hInput hBack
  rcases ofText_eq_ok_iff.mp hInput with
    ⟨document, hDocument, hQuery⟩
  have hDecoded := Json.decoded_of_ofText hDocument
  apply (hIff document query hDecoded hQuery hBack).mpr
  rw [toJson_eq_tidied hDecoded hQuery]
  exact Nat.le_trans document.nesting_tidied_le
    (Json.nesting_of_ofText hDocument)

/-
  A negation of a comparison, with a control character in its
  key, is read again, here from a text that starts with a blank,
  repeats a column and has a whole number.  Under 125 negations,
  128 objects are open at once: the query is read from its
  document, but not from its text.
-/
theorem ofText_text_iff_negations :
    let convert : Json.Conversion := Json.Numeral.stepwise
    let key : Key := ⟨"u\x01", .avg⟩
    let condition : Condition :=
      .comparison .above key (Binary64.ofInt 90)
    let query (negations : Nat) : Query :=
      ⟨⟨Nat.repeat .negation negations condition,
        ⟨[.stored key], none⟩, none⟩, "u\x01"⟩
    let document : Json :=
      .object
        [("OPTIONS",
            Json.single "COLUMNS"
              (Json.ofTexts [key.text, key.text])),
          ("WHERE",
            Json.single "NOT"
              (Json.single "GT"
                (Json.single key.text (.integer 90))))]
    ofText convert (" " ++ document.render) = .ok (query 1) ∧
    (query 1).text ≠ " " ++ document.render ∧
    (query 1).toJson.ReadsBack convert ∧
    ofText convert (query 1).text = .ok (query 1) ∧
    (query 125).toJson.Decoded ∧
    ofJson (query 125).toJson = .ok (query 125) ∧
    (query 125).toJson.ReadsBack convert ∧
    ofText convert (query 125).text ≠ .ok (query 125) := by
  intro convert key condition query document
  have hInput :
      ofText convert (" " ++ document.render) = .ok (query 1) := by
    apply toOption_eq_some_iff.mp
    decide +kernel
  have hNumber : convert (Binary64.ofInt 90).wireNumeral =
      Binary64.ofInt 90 := by
    decide +kernel
  have hJson : Json.ofBinary64 (Binary64.ofInt 90) =
      .float (Binary64.ofInt 90) :=
    if_pos (by decide +kernel)
  have hCondition : ∀ negations : Nat,
      (Nat.repeat Condition.negation negations
        condition).toJson.ReadsBack convert := by
    intro negations
    induction negations with
    | zero =>
        simp only [Nat.repeat, condition, Condition.toJson, hJson,
          Json.readsBack_single_iff, Json.ReadsBack]
        exact hNumber
    | succ negations ih =>
        simp only [Nat.repeat, Condition.toJson,
          Json.readsBack_single_iff]
        exact ih
  have hBack : ∀ negations : Nat,
      (query negations).toJson.ReadsBack convert :=
    fun negations => readsBack_toJson_iff.mpr (hCondition negations)
  have hDecoded := (query 125).decoded_toJson
  have hDocument :
      ofJson (query 125).toJson = .ok (query 125) := by
    apply toOption_eq_some_iff.mp
    decide +kernel
  have hDeep : ¬ (query 125).toJson.nesting ≤ 127 := by
    decide +kernel
  rcases ofText_text_iff convert with ⟨-, hAgain, hIff⟩
  refine ⟨hInput, by decide +kernel, hBack 1,
    hAgain _ _ hInput (hBack 1), hDecoded, hDocument, hBack 125, ?_⟩
  intro hText
  exact hDeep
    ((hIff _ _ hDecoded hDocument (hBack 125)).mp hText)

end Query

end Registrar
