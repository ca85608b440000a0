import Registrar.Proofs.Answer.Visibility
import Registrar.Proofs.Query.WellFormed
import Registrar.Proofs.Text.Bytes

/-
  This file proves which data set a document asks for.

  A document whose parts are well formed names some data set: a
  column is a key, or else there is a grouping, which has keys
  of its own.  If the keys of all parts name one id, this is the
  data set; if they name several, the first two are reported, by
  the bytes of their texts.

  Key definitions include:
    * `Request.Names`
    * `Request.NamesFirst`

  Main statements:
    * `Request.dataSet_eq_several_iff`
    * `Query.keys_ne_nil_of_request`
    * `Query.eq_of_checkKind`
    * `Query.ofJson_finds_dataSet`
-/

------------------------------------------------------------
-- The Ids That Are Named
------------------------------------------------------------

namespace Registrar

namespace Request

/- A key of a request names an id. -/
def Names
    (request : Request)
    (id : String) : Prop :=
  ∃ key ∈ request.keys, key.dataSet = id

/-
  A request names two ids, the first one before the second, and
  all others that it names come after them.
-/
structure NamesFirst
    (request : Request)
    (first second : String) : Prop where
  names_first : request.Names first
  names_second : request.Names second
  first_lt_second :
    Text.bytesOf first < Text.bytesOf second
  second_lt_of_ne : ∀ id, request.Names id →
    id ≠ first → id ≠ second →
      Text.bytesOf second < Text.bytesOf id

/- The ids of keys are those that the keys name. -/
theorem mem_idsOf_iff
    {request : Request}
    {id : String} :
    id ∈ idsOf request.keys ↔ request.Names id := by
  unfold idsOf Names
  rw [List.mem_mergeSort, List.mem_eraseDups, List.mem_map]

/- The ids of keys ascend. -/
theorem idsOf_ascending (keys : List Key) :
    (idsOf keys).Pairwise (· < ·) := by
  have hOrdered : (idsOf keys).Pairwise (· ≤ ·) := by
    have hSorted := @List.pairwise_mergeSort String
      (fun a b => decide (a ≤ b))
      (fun a b c hab hbc => decide_eq_true
        (String.le_trans (of_decide_eq_true hab)
          (of_decide_eq_true hbc)))
      (fun a b => by simpa using String.le_total a b)
      (keys.map Key.dataSet).eraseDups
    exact hSorted.imp fun hab => of_decide_eq_true hab
  have hNodup : (idsOf keys).Nodup := by
    unfold idsOf
    exact (List.mergeSort_perm _ _).nodup_iff.mpr
      (nodup_eraseDups _)
  apply hOrdered.imp₂ ?_ hNodup
  intro a b hLe hNe
  exact Std.lt_of_le_of_ne hLe hNe

/- The two least of ascending names come first. -/
private theorem eq_cons_cons_of_least
    {ids : List String}
    {first second : String}
    (hAscending : ids.Pairwise (· < ·))
    (hFirst : first ∈ ids)
    (hSecond : second ∈ ids)
    (hLess : first < second)
    (hLater : ∀ id ∈ ids, id ≠ first → id ≠ second →
      second < id) :
    ∃ rest, ids = first :: second :: rest := by
  match ids with
  | [] => cases hFirst
  | [id] =>
      rw [List.mem_singleton.mp hFirst,
        List.mem_singleton.mp hSecond] at hLess
      exact absurd hLess Std.lt_irrefl
  | a :: b :: rest =>
      simp only [List.pairwise_cons] at hAscending
      rcases hAscending with ⟨hAfterFirst, hAfterSecond, -⟩
      have hHead : a = first := by
        by_contra hNe
        have hAbove := hAfterFirst first
          ((List.mem_cons.mp hFirst).resolve_left (Ne.symm hNe))
        rcases eq_or_ne a second with rfl | hNe'
        · exact String.lt_asymm hAbove hLess
        · have hBelow := hLater a List.mem_cons_self hNe hNe'
          exact String.lt_asymm hLess (Std.lt_trans hBelow hAbove)
      subst hHead
      have hNext : b = second := by
        by_contra hNe
        have hTail := (List.mem_cons.mp hSecond).resolve_left
          (Std.ne_of_lt hLess).symm
        have hAbove := hAfterSecond second
          ((List.mem_cons.mp hTail).resolve_left (Ne.symm hNe))
        have hBelow := hLater b (by simp)
          (Std.ne_of_lt (hAfterFirst b (by simp))).symm hNe
        exact String.lt_asymm hAbove hBelow
      subst hNext
      exact ⟨rest, rfl⟩

/-
  Several data sets are reported if and only if a request names
  them and all others come after them.
-/
theorem dataSet_eq_several_iff
    {request : Request}
    {first second : String} :
    request.dataSet = .error (.severalDataSets first second) ↔
      request.NamesFirst first second := by
  have hAscending := idsOf_ascending request.keys
  have hMem : ∀ id, id ∈ idsOf request.keys ↔
      request.Names id := fun _ => mem_idsOf_iff
  unfold dataSet
  generalize idsOf request.keys = ids at hAscending hMem
  constructor
  · intro h
    match ids, h with
    | first :: second :: rest, rfl =>
        simp only [List.pairwise_cons, List.mem_cons] at hAscending
        rcases hAscending with ⟨hFirst, hSecond, -⟩
        refine ⟨(hMem first).mp (by simp),
          (hMem second).mp (by simp),
          Text.bytesOf_lt_iff.mpr (hFirst second (.inl rfl)), ?_⟩
        intro id hNamed hNotFirst hNotSecond
        rcases List.mem_cons.mp ((hMem id).mpr hNamed) with
          hEq | hLater
        · exact absurd hEq hNotFirst
        · rcases List.mem_cons.mp hLater with hEq | hRest
          · exact absurd hEq hNotSecond
          · exact Text.bytesOf_lt_iff.mpr (hSecond id hRest)
  · intro h
    rcases eq_cons_cons_of_least hAscending
        ((hMem first).mpr h.names_first)
        ((hMem second).mpr h.names_second)
        (Text.bytesOf_lt_iff.mp h.first_lt_second)
        (fun id hId hNe hNe' => Text.bytesOf_lt_iff.mp
          (h.second_lt_of_ne id ((hMem id).mp hId) hNe hNe')) with
      ⟨rest, rfl⟩
    rfl

/- None is missed by a request that has a key. -/
theorem dataSet_ne_noDataSet
    {request : Request}
    (hKeys : request.keys ≠ []) :
    request.dataSet ≠ .error .noDataSet := by
  rcases List.exists_mem_of_ne_nil _ hKeys with ⟨key, hMem⟩
  have hId : key.dataSet ∈ idsOf request.keys :=
    mem_idsOf_iff.mpr ⟨key, hMem, rfl⟩
  intro h
  unfold dataSet at h
  split at h
  · next hNone =>
      rw [hNone] at hId
      cases hId
  · cases h
  · cases h

end Request

------------------------------------------------------------
-- Documents And Their Data Sets
------------------------------------------------------------

namespace Query

/- The parts that a decoded document states have a key. -/
theorem keys_ne_nil_of_request
    {document : Json}
    {request : Request}
    (hDecoded : document.Decoded)
    (h : Request.ofJson document = .ok request) :
    request.keys ≠ [] := by
  cases document with
  | object members =>
      have hParts := hDecoded
      rw [Json.Decoded] at hParts
      rcases (Request.ofMembers_eq_ok_iff hParts.1 hParts.2).mp h
        with ⟨condition, selection, rfl, hStated⟩
      have hSelection := ((Selection.ofJson_eq_ok_iff
        (Request.decoded_parts hDecoded).2).mp
        hStated.selection_read).1
      have hShown := hStated.columns_shown
      simp only [Request.checkColumn_eq_ok_iff] at hShown
      have hKey : ∃ key ∈ request.keys, key.IsWellFormed :=
        @exists_mem_keys ⟨request, ""⟩ hSelection
          hStated.grouping_wellFormed
          fun hNone column hMem => (hShown column hMem).2 hNone
      rcases hKey with ⟨key, hMem, -⟩
      exact List.ne_nil_of_mem hMem
  | _ => cases h

/- A query with a key suits at most one kind. -/
theorem eq_of_checkKind
    {query : Query}
    {kind other : Kind}
    (hKeys : query.keys ≠ [])
    (hKind : query.checkKind kind = .ok ())
    (hOther : query.checkKind other = .ok ()) :
    kind = other := by
  rcases List.exists_mem_of_ne_nil _ hKeys with ⟨key, hMem⟩
  rw [← checkKind_eq_ok_iff.mp hKind key hMem]
  exact checkKind_eq_ok_iff.mp hOther key hMem

/-
  A document fails over its data sets if and only if its parts
  can be read and the data set of these parts fails.
-/
private theorem ofJson_eq_dataSet_error_iff
    {document : Json}
    {failure : Failure}
    (hNotMalformed : ∀ m, failure ≠ .malformed m) :
    ofJson document = .error failure ↔
      ∃ request, Request.ofJson document = .ok request ∧
        request.dataSet = .error failure := by
  unfold ofJson
  cases Request.ofJson document with
  | error m => simpa using fun hEq => hNotMalformed m hEq.symm
  | ok request => cases hId : request.dataSet <;> simp [hId]

/-
  No decoded document lacks a data set.  One that is reported to
  name several has readable parts that name these two first, by
  their bytes, and it is reported whenever this is so.  A query
  that is read has a key, and so it suits at most one kind.
-/
theorem ofJson_finds_dataSet
    {document : Json}
    (hDecoded : document.Decoded) :
    ofJson document ≠ .error .noDataSet ∧
    (∀ first second,
      ofJson document = .error (.severalDataSets first second) ↔
        ∃ request, Request.ofJson document = .ok request ∧
          request.NamesFirst first second) ∧
    ∀ query, ofJson document = .ok query →
      query.keys ≠ [] ∧
      ∀ kind other,
        query.checkKind kind = .ok () →
        query.checkKind other = .ok () →
          kind = other := by
  refine ⟨?_, ?_, ?_⟩
  · intro h
    rcases (ofJson_eq_dataSet_error_iff (by simp)).mp h with
      ⟨request, hRequest, hId⟩
    exact Request.dataSet_ne_noDataSet
      (keys_ne_nil_of_request hDecoded hRequest) hId
  · intro first second
    rw [ofJson_eq_dataSet_error_iff (by simp)]
    simp only [Request.dataSet_eq_several_iff]
  · intro query h
    have hKeys : query.keys ≠ [] :=
      (Request.dataSet_eq_ok_iff.mp
        ((ofJson_eq_ok_iff hDecoded).mp h).1).1
    exact ⟨hKeys, fun _ _ => eq_of_checkKind hKeys⟩

/-
  A document whose only column is computed names data sets in
  its grouping; of three in all, the last one is not reported.
-/
theorem ofJson_finds_dataSet_sfu :
    let selection := Json.object
      [("COLUMNS", Json.ofTexts ["n"])]
    let grouping := Json.object
      [("APPLY",
          .list
            [Json.single "n"
              (Json.single "COUNT" (.text "sfu_year"))]),
        ("GROUP", Json.ofTexts ["ubc_dept"])]
    let condition := Json.single "GT"
      (Json.single "uvic_avg" (.integer 90))
    let document := Json.object
      [("OPTIONS", selection), ("TRANSFORMATIONS", grouping),
        ("WHERE", condition)]
    document.Decoded ∧
    ofJson document = .error (.severalDataSets "sfu" "ubc") := by
  intro selection grouping condition document
  have hDecoded : document.Decoded := by
    have hParts :
        ["OPTIONS", "TRANSFORMATIONS", "WHERE"].Pairwise
          (· < ·) := by
      decide
    have hGrouping : grouping.Decoded := by
      have hNames : ["APPLY", "GROUP"].Pairwise (· < ·) := by
        decide
      refine Json.decoded_object hNames ?_
      simp [Json.decoded_ofTexts, Json.decoded_single_iff,
        Json.Decoded, Json.DecodedItems]
    have hSelection : selection.Decoded := by
      refine Json.decoded_object (by decide) ?_
      simp [Json.decoded_ofTexts]
    have hWord : Json.FitsWord 90 := by decide
    have hCondition : condition.Decoded := by
      simp [condition, Json.decoded_single_iff, Json.Decoded,
        hWord]
    refine Json.decoded_object hParts ?_
    simp [hSelection, hGrouping, hCondition]
  let request : Request :=
    ⟨.comparison .above ⟨"uvic", .avg⟩ (Binary64.ofInt 90),
      ⟨[.applied "n"], none⟩,
      some ⟨[⟨"ubc", .dept⟩], [⟨"n", .count, ⟨"sfu", .year⟩⟩]⟩⟩
  have hRequest : Request.ofJson document = .ok request := by
    decide +kernel
  have hNames : ∀ id, request.Names id ↔
      id = "uvic" ∨ id = "ubc" ∨ id = "sfu" := by
    simp [Request.Names, Request.keys, Condition.keys,
      Selection.keys, Selection.sortingColumns, Column.key?,
      Grouping.allKeys, request, eq_comm]
  refine ⟨hDecoded, ?_⟩
  apply ((ofJson_finds_dataSet hDecoded).2.1 "sfu" "ubc").mpr
  refine ⟨request, hRequest, (hNames _).mpr (by simp),
    (hNames _).mpr (by simp), by decide +kernel, ?_⟩
  intro id hNamed hNotFirst hNotSecond
  rcases (hNames id).mp hNamed with rfl | rfl | rfl
  · decide +kernel
  · exact absurd rfl hNotSecond
  · exact absurd rfl hNotFirst

end Query

end Registrar
