import Registrar.Proofs.Data.Records
import Registrar.Proofs.Query.Queries

/-
  This file proves that queries survive being written and read
  again, and that a written query says what the document said
  from which it was read.  Only repeated columns are left out,
  and numbers to compare with are binary values.

  Key definitions include:
    * `Json.binaryOperands`
    * `Json.tidyCondition`
    * `Json.distinct`
    * `Json.tidied`

  Main statements:
    * `Condition.toJson_of_stated`
    * `Condition.stated_tidyMembers`
    * `Query.ofJson_toJson`
    * `Query.toJson_eq_tidied`
-/

------------------------------------------------------------
-- Tidied Documents
------------------------------------------------------------

namespace Registrar

namespace Json

/- Every number to compare with becomes its binary value. -/
def binaryOperands : Json → Json
| .object members =>
    .object (members.map fun (name, value) =>
      (name, value.binaryOperand))
| document => document

/- The words for comparisons with a number. -/
def comparisons : List String :=
  ["LT", "GT", "EQ"]

mutual

/- All comparisons of a condition are with binary values. -/
def tidyCondition : Json → Json
| .list items => .list (tidyItems items)
| .object members => .object (tidyMembers members)
| document => document

/- The items of an array are tidied. -/
def tidyItems : List Json → List Json
| [] => []
| item :: rest => item.tidyCondition :: tidyItems rest

/- The members of an object are tidied. -/
def tidyMembers : List (String × Json) → List (String × Json)
| [] => []
| (name, value) :: rest =>
    (name,
        if name ∈ comparisons then
          value.binaryOperands
        else
          value.tidyCondition) ::
      tidyMembers rest

end

/- A string that is repeated stays only where it is first. -/
def distinctItems : List Json → List Json
| [] => []
| item :: rest =>
    item :: (distinctItems rest).filter fun other =>
      other.text? != item.text?

/- The array without repeated strings. -/
def distinct : Json → Json
| .list items => .list (distinctItems items)
| document => document

/- The value of one member is changed. -/
def mapMember
    (name : String)
    (change : Json → Json) : Json → Json
| .object members =>
    .object (members.map fun (other, value) =>
      (other, if other = name then change value else value))
| document => document

/-
  The document of a query with its comparisons and its columns
  tidied.  All else, and the order of all, stays.
-/
def tidied (document : Json) : Json :=
  (document.mapMember "WHERE" tidyCondition).mapMember
    "OPTIONS" (mapMember "COLUMNS" distinct)

/- Repeated strings are left out as repeated items are. -/
theorem distinct_ofTexts (texts : List String) :
    (ofTexts texts).distinct = ofTexts texts.eraseDups := by
  unfold ofTexts
  rw [distinct, Json.list.injEq]
  induction texts with
  | nil => rfl
  | cons s rest ih =>
      rw [List.map_cons, distinctItems, ih, List.eraseDups_cons,
        ← filter_eraseDups, List.map_cons, List.filter_map]
      rfl

end Json

------------------------------------------------------------
-- Written Queries Are Decoded
------------------------------------------------------------

namespace Condition

mutual

/- The document of a condition can be decoded from text. -/
theorem decoded_toJson : (c : Condition) → c.toJson.Decoded
| .always => by
    simp [toJson, Json.Decoded, Json.DecodedMembers,
      Directory.Ascending, Directory.names]
| .junction connective operands => by
    rw [toJson, Json.decoded_single_iff, Json.Decoded]
    exact decoded_toJsonOfAll operands
| .comparison relation key operand => by
    rw [toJson, Json.decoded_single_iff,
      Json.decoded_single_iff]
    exact Json.decoded_ofBinary64 operand
| .likeness key pattern => by
    rw [toJson, Json.decoded_single_iff,
      Json.decoded_single_iff]
    simp [Json.Decoded]
| .negation operand => by
    rw [toJson, Json.decoded_single_iff]
    exact decoded_toJson operand

private theorem decoded_toJsonOfAll :
    (cs : List Condition) → Json.DecodedItems (toJsonOfAll cs)
| [] => by simp [toJsonOfAll, Json.DecodedItems]
| c :: cs => by
    rw [toJsonOfAll, Json.DecodedItems]
    exact ⟨decoded_toJson c, decoded_toJsonOfAll cs⟩

end

end Condition

/- The document of a sorting can be decoded from text. -/
theorem Sorting.decoded_toJson (sorting : Sorting) :
    sorting.toJson.Decoded := by
  cases sorting with
  | single column => simp [toJson, Json.Decoded]
  | several direction columns =>
      have hNames : ["dir", "keys"].Pairwise (· < ·) := by
        decide
      have hColumns := Json.decoded_ofTexts
        (columns.map Column.text)
      apply Json.decoded_object
      · exact hNames
      · simp [Column.listToJson, Json.Decoded, hColumns]

/- The document of a selection can be decoded from text. -/
theorem Selection.decoded_toJson (selection : Selection) :
    selection.toJson.Decoded := by
  have hColumns := Json.decoded_ofTexts
    (selection.columns.map Column.text)
  rcases selection with ⟨columns, _ | sorting⟩
  · exact Json.decoded_single_iff.mpr hColumns
  · have hNames : ["COLUMNS", "ORDER"].Pairwise (· < ·) := by
      decide
    have hSorting := sorting.decoded_toJson
    apply Json.decoded_object
    · exact hNames
    · simpa [Column.listToJson, hSorting] using hColumns

/- The document of a grouping can be decoded from text. -/
theorem Grouping.decoded_toJson (grouping : Grouping) :
    grouping.toJson.Decoded := by
  have hNames : ["APPLY", "GROUP"].Pairwise (· < ·) := by
    decide
  have hKeys := Json.decoded_ofTexts
    (grouping.keys.map Key.text)
  have hRules : (Json.list
      (grouping.rules.map AppliedRule.toJson)).Decoded := by
    rw [Json.Decoded, Json.decodedItems_iff]
    intro item hMem
    rcases List.mem_map.mp hMem with ⟨rule, -, rfl⟩
    rw [AppliedRule.toJson, Json.decoded_single_iff,
      Json.decoded_single_iff]
    simp [Json.Decoded]
  apply Json.decoded_object
  · exact hNames
  · simp [hKeys, hRules]

/- The document of a query can be decoded from text. -/
theorem Query.decoded_toJson (query : Query) :
    query.toJson.Decoded := by
  have hCondition := query.condition.decoded_toJson
  have hSelection := query.selection.decoded_toJson
  rcases query with ⟨⟨c, s, _ | grouping⟩, id⟩
  · have hNames : ["OPTIONS", "WHERE"].Pairwise (· < ·) := by
      decide
    apply Json.decoded_object
    · exact hNames
    · simp [hCondition, hSelection]
  · have hNames :
        ["OPTIONS", "TRANSFORMATIONS", "WHERE"].Pairwise
          (· < ·) := by
      decide
    have hGrouping := grouping.decoded_toJson
    apply Json.decoded_object
    · exact hNames
    · simp [hCondition, hSelection, hGrouping]

------------------------------------------------------------
-- Conditions
------------------------------------------------------------

namespace Condition

private theorem number?_binaryOperand (document : Json) :
    document.binaryOperand.number? = document.number? := by
  cases document <;> rfl

private theorem clause_notMem (connective : Connective) :
    connective.clause ∉ Json.comparisons := by
  cases connective <;> decide

private theorem clause_mem (relation : Relation) :
    relation.clause ∈ Json.comparisons := by
  cases relation <;> decide

mutual

/- The document of a condition is that which stated it. -/
theorem toJson_of_stated
    {members : List (String × Json)}
    {condition : Condition}
    (hDecoded : Json.DecodedMembers members)
    (h : Stated members condition) :
    condition.toJson = .object (Json.tidyMembers members) := by
  cases h with
  | @junction connective items operands hNe hItems =>
      have hInner : Json.DecodedItems items := by
        simpa [Json.DecodedMembers, Json.Decoded] using hDecoded
      have hAll := toJsonOfAll_of_allStated hInner hItems
      simp [toJson, Json.single, Json.tidyMembers,
        Json.tidyCondition, clause_notMem, hAll]
  | @comparison relation key document operand hKey hDomain
      hOperand =>
      have hInner : document.Decoded := by
        rw [Json.DecodedMembers] at hDecoded
        exact Json.decoded_single_iff.mp hDecoded.1
      have hNumber := Json.ofBinary64_eq_binaryOperand hInner
        hOperand
      simp [toJson, Json.single, Json.tidyMembers,
        Json.binaryOperands, clause_mem, hNumber]
  | @likeness key input pattern hKey hDomain hPattern =>
      have hText := Pattern.text_of_parse hPattern
      simp [toJson, Json.single, Json.tidyMembers,
        Json.tidyCondition, Json.binaryOperands,
        Json.comparisons, hText]
  | @negation members operand hOperand =>
      have hInner : Json.DecodedMembers members := by
        rw [Json.DecodedMembers, Json.Decoded] at hDecoded
        exact hDecoded.1.2
      have hOperand := toJson_of_stated hInner hOperand
      simp [toJson, Json.single, Json.tidyMembers,
        Json.tidyCondition, Json.comparisons, hOperand]

private theorem toJsonOfAll_of_allStated
    {items : List Json}
    {operands : List Condition}
    (hDecoded : Json.DecodedItems items)
    (h : AllStated items operands) :
    toJsonOfAll operands = Json.tidyItems items := by
  cases h with
  | nil => rfl
  | cons hHead hTail =>
      rw [Json.DecodedItems, Json.Decoded] at hDecoded
      have hFirst := toJson_of_stated hDecoded.1.2 hHead
      have hRest := toJsonOfAll_of_allStated hDecoded.2 hTail
      simp [toJsonOfAll, Json.tidyItems, Json.tidyCondition,
        hFirst, hRest]

end

mutual

/- Tidied members state the same condition. -/
theorem stated_tidyMembers
    {members : List (String × Json)}
    {condition : Condition}
    (h : Stated members condition) :
    Stated (Json.tidyMembers members) condition := by
  cases h with
  | @junction connective items operands hNe hItems =>
      have hAll := allStated_tidyItems hItems
      have hSome : Json.tidyItems items ≠ [] := by
        cases items with
        | nil => exact absurd rfl hNe
        | cons item rest => simp [Json.tidyItems]
      simpa [Json.tidyMembers, Json.tidyCondition,
        clause_notMem] using Stated.junction hSome hAll
  | @comparison relation key document operand hKey hDomain
      hOperand =>
      rw [← number?_binaryOperand] at hOperand
      simpa [Json.tidyMembers, Json.binaryOperands, clause_mem]
        using Stated.comparison hKey hDomain hOperand
  | likeness hKey hDomain hPattern =>
      simpa [Json.tidyMembers, Json.tidyCondition,
        Json.binaryOperands, Json.comparisons] using
          Stated.likeness hKey hDomain hPattern
  | negation hOperand =>
      simpa [Json.tidyMembers, Json.tidyCondition,
        Json.comparisons] using
          Stated.negation (stated_tidyMembers hOperand)

private theorem allStated_tidyItems
    {items : List Json}
    {operands : List Condition}
    (h : AllStated items operands) :
    AllStated (Json.tidyItems items) operands := by
  cases h with
  | nil => exact .nil
  | cons hHead hTail =>
      simpa [Json.tidyItems, Json.tidyCondition] using
        AllStated.cons (stated_tidyMembers hHead)
          (allStated_tidyItems hTail)

end

/- A condition's document is the one it was read from, tidied. -/
theorem toJson_eq_tidyCondition
    {document : Json}
    {condition : Condition}
    (hDecoded : document.Decoded)
    (h : ofJson document = .ok condition) :
    condition.toJson = document.tidyCondition := by
  rcases ofJson_eq_ok_iff.mp h with
    ⟨rfl, rfl⟩ | ⟨members, rfl, hStated⟩
  · simp [toJson, Json.tidyCondition, Json.tidyMembers]
  · rw [Json.Decoded] at hDecoded
    rw [toJson_of_stated hDecoded.2 hStated, Json.tidyCondition]

/- A condition that has been read is read from its document. -/
theorem ofJson_toJson
    {document : Json}
    {condition : Condition}
    (hDecoded : document.Decoded)
    (h : ofJson document = .ok condition) :
    ofJson condition.toJson = .ok condition := by
  rw [toJson_eq_tidyCondition hDecoded h]
  rcases ofJson_eq_ok_iff.mp h with
    ⟨rfl, rfl⟩ | ⟨members, rfl, hStated⟩
  · simp [ofJson, Json.tidyCondition, Json.tidyMembers]
  · rw [Json.tidyCondition]
    exact ofJson_eq_ok_iff.mpr
      (.inr ⟨_, rfl, stated_tidyMembers hStated⟩)

end Condition

------------------------------------------------------------
-- Queries
------------------------------------------------------------

/- A selection that is well formed is read from its document. -/
theorem Selection.ofJson_toJson
    {selection : Selection}
    (h : selection.IsWellFormed) :
    ofJson selection.toJson = .ok selection := by
  apply (ofJson_eq_ok_iff selection.decoded_toJson).mpr
  exact ⟨h, selection.columns.map Column.text,
    eraseDups_of_nodup h.texts_nodup, selection.toJson_eq⟩

/- Only the columns of a selection are tidied. -/
private theorem Selection.mapMember_membersShowing
    (shown : List String)
    (selection : Selection) :
    (Json.object (selection.membersShowing shown)).mapMember
        "COLUMNS" Json.distinct =
      .object (selection.membersShowing shown.eraseDups) := by
  rcases selection with ⟨columns, _ | sorting⟩ <;>
    simp [membersShowing, Json.mapMember,
      Json.distinct_ofTexts]

/- A grouping is left as it is. -/
private theorem Request.tidied_membersWith
    (condition selection : Json)
    (request : Request) :
    (Json.object
        (request.membersWith condition selection)).tidied =
      .object
        (request.membersWith condition.tidyCondition
          (selection.mapMember "COLUMNS" Json.distinct)) := by
  rcases request with ⟨c, s, _ | grouping⟩ <;>
    simp [membersWith, Json.tidied, Json.mapMember]

namespace Query

/- A query that has been read is read from its document. -/
theorem ofJson_toJson
    {document : Json}
    {query : Query}
    (hDecoded : document.Decoded)
    (h : ofJson document = .ok query) :
    ofJson query.toJson = .ok query := by
  rcases (ofJson_eq_ok_iff hDecoded).mp h with
    ⟨hId, condition, selection, rfl, hStated⟩
  rcases Request.decoded_parts hDecoded with
    ⟨hCondition, hSelection⟩
  apply (ofJson_eq_ok_iff query.decoded_toJson).mpr
  refine ⟨hId, _, _, query.toJson_eq, ?_, ?_, ?_, ?_⟩
  · exact Condition.ofJson_toJson hCondition
      hStated.condition_read
  · apply Selection.ofJson_toJson
    exact ((Selection.ofJson_eq_ok_iff hSelection).mp
      hStated.selection_read).1
  · exact hStated.grouping_wellFormed
  · exact hStated.columns_shown

/-
  A query is stated by its own document if its parts are read
  from there and its keys name its data set.
-/
theorem isStated_of_toJson
    {query : Query}
    (hRequest : Request.ofJson query.toJson =
      .ok query.toRequest)
    (hKeys : query.keys ≠ [] ∧
      ∀ key ∈ query.keys, key.dataSet = query.dataSet) :
    query.IsStated := by
  refine ⟨query.toJson, query.decoded_toJson, ?_⟩
  rw [ofJson, hRequest]
  simp only [Request.dataSet_eq_ok_iff.mpr hKeys]

/- A query's document is the one it was read from, tidied. -/
theorem toJson_eq_tidied
    {document : Json}
    {query : Query}
    (hDecoded : document.Decoded)
    (h : ofJson document = .ok query) :
    query.toJson = document.tidied := by
  rcases (ofJson_eq_ok_iff hDecoded).mp h with
    ⟨-, condition, selection, rfl, hStated⟩
  rcases Request.decoded_parts hDecoded with
    ⟨hCondition, hSelection⟩
  rcases (Selection.ofJson_eq_ok_iff hSelection).mp
      hStated.selection_read with
    ⟨-, shown, hShown, rfl⟩
  rw [query.toJson_eq, Condition.toJson_eq_tidyCondition
    hCondition hStated.condition_read, Selection.toJson_eq,
    ← hShown, Request.tidied_membersWith,
    Selection.mapMember_membersShowing]

/-
  A query's document is the one it was read from, apart from
  repeated columns and numbers that are not binary; and the
  query is read from it again.
-/
theorem ofJson_toJson_eq_tidied
    {document : Json}
    {query : Query}
    (hDecoded : document.Decoded)
    (h : ofJson document = .ok query) :
    ofJson query.toJson = .ok query ∧
      query.toJson = document.tidied := by
  refine ⟨?_, ?_⟩
  · exact ofJson_toJson hDecoded h
  · exact toJson_eq_tidied hDecoded h

/- A repeated column is left out, and 90 becomes binary. -/
theorem ofJson_toJson_eq_tidied_ninety :
    let columns := Json.ofTexts ["ubc_avg", "ubc_avg"]
    let document (operand columns : Json) : Json :=
      .object
        [("OPTIONS", .object
            [("COLUMNS", columns), ("ORDER", .text "ubc_avg")]),
          ("WHERE", Json.single "GT"
            (Json.single "ubc_avg" operand))]
    (document (.integer 90) columns).Decoded ∧
    ∃ query,
      ofJson (document (.integer 90) columns) = .ok query ∧
      ofJson query.toJson = .ok query ∧
      query.toJson =
        document (.float (Binary64.ofInt 90))
          (Json.ofTexts ["ubc_avg"]) := by
  intro columns document
  have hDecoded :
      (document (.integer 90) columns).Decoded := by
    have hFits : (Json.integer 90).Decoded := by
      rw [Json.Decoded]
      decide
    have hOuter : ["OPTIONS", "WHERE"].Pairwise (· < ·) := by
      decide
    have hInner : ["COLUMNS", "ORDER"].Pairwise (· < ·) := by
      decide
    have hColumns := Json.decoded_ofTexts
      ["ubc_avg", "ubc_avg"]
    have hOptions :
        (Json.object
          [("COLUMNS", columns),
            ("ORDER", .text "ubc_avg")]).Decoded := by
      apply Json.decoded_object
      · exact hInner
      · simpa [columns, Json.Decoded] using hColumns
    apply Json.decoded_object
    · exact hOuter
    · simp [hOptions, Json.decoded_single_iff, hFits]
  let key : Key := ⟨"ubc", .avg⟩
  let request : Request :=
    ⟨.comparison .above key (Binary64.ofInt 90),
      ⟨[.stored key], some (.single (.stored key))⟩, none⟩
  have hRequest :
      Request.ofJson (document (.integer 90) columns) =
        .ok request := rfl
  have hId : request.dataSet = .ok "ubc" := by
    apply Request.dataSet_eq_ok_iff.mpr
    simp [request, Request.keys, Condition.keys, key,
      Selection.keys, Selection.sortingColumns, Sorting.columns,
      Column.key?]
  have hQuery :
      ofJson (document (.integer 90) columns) =
        .ok ⟨request, "ubc"⟩ := by
    rw [ofJson, hRequest]
    simp only [hId]
  rcases ofJson_toJson_eq_tidied hDecoded hQuery with
    ⟨hRead, hTidied⟩
  refine ⟨hDecoded, ⟨request, "ubc"⟩, hQuery, hRead, ?_⟩
  rw [hTidied]
  rfl

end Query

end Registrar
