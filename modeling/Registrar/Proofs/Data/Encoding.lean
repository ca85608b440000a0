import Registrar.Json.Conversion
import Registrar.Proofs.Data.Records
import Registrar.Proofs.Json.Rendering

/-
  This file proves that records survive being written and read
  again, as documents and as texts, and that a record that has
  been read from an object is written as the numbers and the
  strings of that object.

  A record is read off a text as the whole document is, so that
  what holds of documents holds of texts, as far as the numbers
  written there are given back.

  Key definitions include:
    * `Json.isPrimitive`
    * `Json.primitives`

  Main statements:
    * `Record.ofText_eq_ok_iff`
    * `Record.ofJson?_toJson_iff`
    * `Record.readsBack_toJson_iff`
    * `Record.ofText_render_iff`
    * `Record.toJson_ofMembers`
    * `Record.find?_ofMembers`
    * `Record.encoding_keeps_values`
-/

------------------------------------------------------------
-- Primitive Documents
------------------------------------------------------------

namespace Registrar

namespace Json

/- Whether a document is a number or a string. -/
def isPrimitive (document : Json) : Bool :=
  document.typeName == "number" || document.typeName == "string"

/-
  The members of an object that are numbers or strings, in their
  order, with binary values for the numbers.
-/
def primitives (members : Directory Json) : Directory Json :=
  (members.filter fun (_, document) => document.isPrimitive).map
    fun (name, document) => (name, document.binaryOperand)

end Json

------------------------------------------------------------
-- Values In Documents
------------------------------------------------------------

namespace Value

/- A finite value is read from its document. -/
theorem ofJson?_toJson
    {value : Value}
    (h : value.IsFinite) :
    ofJson? value.toJson = some value := by
  cases value with
  | number x =>
      have hFinite : x.IsFinite := h
      rw [toJson, Json.ofBinary64, if_pos hFinite]
      rfl
  | text s => rfl

/- The document of a value can be decoded from text. -/
theorem decoded_toJson (value : Value) :
    value.toJson.Decoded := by
  cases value with
  | number x => exact Json.decoded_ofBinary64 x
  | text s => simp [toJson, Json.Decoded]

/- The document of a value opens nothing. -/
theorem nesting_toJson (value : Value) :
    value.toJson.nesting = 0 := by
  cases value with
  | number x =>
      rw [toJson, Json.ofBinary64]
      split <;> rfl
  | text s => rfl

/- Numbers and strings are written as they were read. -/
theorem map_toJson_ofJson?
    {document : Json}
    (h : document.Decoded) :
    (ofJson? document).map toJson =
      if document.isPrimitive then
        some document.binaryOperand
      else
        none := by
  cases document with
  | integer n =>
      exact congrArg some (Json.ofBinary64_eq_binaryOperand h rfl)
  | float x =>
      exact congrArg some (Json.ofBinary64_eq_binaryOperand h rfl)
  | text s => rfl
  | null => rfl
  | boolean b => rfl
  | list items => rfl
  | object members => rfl

end Value

------------------------------------------------------------
-- Records In Documents
------------------------------------------------------------

namespace Record

variable {convert : Json.Conversion}
variable {record : Record} {members : Directory Json}

/- All members of the document of a record are decoded. -/
private theorem decoded_of_mem_toJson
    (h : record.toJson = .object members) :
    ∀ member ∈ members, member.2.Decoded := by
  cases h
  rw [List.forall_mem_map]
  intro entry _
  exact entry.2.decoded_toJson

/- The document of a record can be decoded from text. -/
theorem decoded_toJson
    (h : record.entries.Ascending) :
    record.toJson.Decoded := by
  apply Json.decoded_object ?_ (decoded_of_mem_toJson rfl)
  rw [Directory.names, List.map_map]
  exact h

/- In the document of a record one object is open. -/
theorem nesting_toJson_le (record : Record) :
    record.toJson.nesting ≤ 1 := by
  rw [toJson, Json.nesting]
  apply Nat.succ_le_succ
  rw [Json.nestingOfMembers_le_iff, List.forall_mem_map]
  intro entry _
  exact Nat.le_of_eq entry.2.nesting_toJson

/- A record of finite numbers is read from its document. -/
theorem ofJson?_toJson
    (h : record.IsFinite) :
    ofJson? record.toJson = some record := by
  have hEntry : ∀ entry ∈ record.entries,
      ((Value.ofJson? entry.2.toJson).map
        fun value => (entry.1, value)) = some entry := by
    intro entry hMem
    have hFinite := h entry.2 (List.mem_map_of_mem hMem)
    rw [Value.ofJson?_toJson hFinite, Option.map_some]
  rw [toJson, ofJson?, ofMembers, List.filterMap_map]
  congr 2
  calc record.entries.filterMap _
      = record.entries.filterMap some :=
        List.filterMap_congr hEntry
    _ = record.entries := List.filterMap_some

/- Only records of finite numbers are read from their document. -/
theorem ofJson?_toJson_iff :
    ofJson? record.toJson = some record ↔ record.IsFinite := by
  refine ⟨fun h => ?_, ofJson?_toJson⟩
  rw [toJson, ofJson?, Option.some.injEq] at h
  rw [← h]
  exact isFinite_ofMembers (decoded_of_mem_toJson rfl)

/- A record is written as the primitives it was read from. -/
theorem toJson_ofMembers
    (h : ∀ member ∈ members, member.2.Decoded) :
    (ofMembers members).toJson =
      .object (Json.primitives members) := by
  have hMember : ∀ member ∈ members,
      (((Value.ofJson? member.2).map
          fun value => (member.1, value)).map
            fun entry => (entry.1, entry.2.toJson)) =
        if member.2.isPrimitive then
          some (member.1, member.2.binaryOperand)
        else
          none := by
    intro member hMem
    have hValue := congrArg
      (Option.map fun document => (member.1, document))
      (Value.map_toJson_ofJson? (h member hMem))
    rw [Option.map_map] at hValue ⊢
    refine hValue.trans ?_
    split <;> rfl
  rw [toJson, ofMembers, Json.primitives, Json.object.injEq,
    List.map_filterMap, ← List.filterMap_eq_map,
    List.filterMap_filter]
  exact List.filterMap_congr hMember

/- The names of what is kept ascend as they did. -/
theorem ascending_ofMembers
    (h : members.Ascending) :
    (ofMembers members).entries.Ascending := by
  unfold Directory.Ascending Directory.names at h ⊢
  rw [List.pairwise_map] at h
  rw [ofMembers, List.pairwise_map, List.pairwise_filterMap]
  apply h.imp
  intro a b hLess x hx y hy
  rcases Option.map_eq_some_iff.mp hx with ⟨_, -, rfl⟩
  rcases Option.map_eq_some_iff.mp hy with ⟨_, -, rfl⟩
  exact hLess

/- Under each name is the value that the object holds there. -/
theorem find?_ofMembers
    (h : members.Ascending)
    (name : String) :
    (ofMembers members).find? name =
      (Directory.find? name members).bind Value.ofJson? := by
  apply Option.ext
  intro value
  rw [find?, Directory.find?_eq_some_iff_mem
    (ascending_ofMembers h), Option.bind_eq_some_iff]
  simp only [Directory.find?_eq_some_iff_mem h]
  constructor
  · intro hMem
    rcases List.mem_filterMap.mp hMem with
      ⟨⟨other, document⟩, hMember, hSome⟩
    rcases Option.map_eq_some_iff.mp hSome with
      ⟨found, hFound, hEq⟩
    cases hEq
    exact ⟨document, hMember, hFound⟩
  · rintro ⟨document, hMember, hFound⟩
    apply List.mem_filterMap.mpr
    exact ⟨(name, document), hMember, by simp [hFound]⟩

------------------------------------------------------------
-- Records In Texts
------------------------------------------------------------

/- A record is read off a text as its object would be. -/
private theorem read_eq_ok_iff
    {depth : Nat}
    {input rest : List Char} :
    read convert depth input = .ok (record, rest) ↔
      ∃ members,
        Json.readValue convert (depth + 1) input =
          .ok (.object members, rest) ∧
        ofMembers members = record := by
  simp only [Json.readValue_eq_object_iff .record]
  unfold read
  rw [bind_eq_ok_iff]
  constructor
  · rintro ⟨⟨entries, last⟩, hEntries, hRead⟩
    cases hRead
    exact ⟨_, ⟨entries, hEntries, rfl⟩, rfl⟩
  · rintro ⟨_, ⟨entries, hEntries, rfl⟩, rfl⟩
    exact ⟨(entries, rest), hEntries, rfl⟩

/- A text holds a record exactly if it holds an object. -/
theorem ofText_eq_ok_iff {input : String} :
    ofText convert input = .ok record ↔
      ∃ members,
        Json.ofText convert input = .ok (.object members) ∧
        ofMembers members = record := by
  unfold ofText Json.ofText
  simp only [Json.readWhole_eq_ok_iff, read_eq_ok_iff]
  constructor
  · rintro ⟨rest, ⟨members, hRead, hRecord⟩, hBlank⟩
    exact ⟨members, ⟨rest, hRead, hBlank⟩, hRecord⟩
  · rintro ⟨members, ⟨rest, hRead, hBlank⟩, hRecord⟩
    exact ⟨rest, ⟨members, hRead, hRecord⟩, hBlank⟩

/-
  The numbers of a record are given back if each of them is; one
  that is not finite is written as no number.
-/
theorem readsBack_toJson_iff :
    record.toJson.ReadsBack convert ↔
      ∀ x : Binary64,
        .number x ∈ record.values → x.IsFinite →
          convert x.wireNumeral = x := by
  have hValue : ∀ value : Value,
      value.toJson.ReadsBack convert ↔
        ∀ x, value = .number x → x.IsFinite →
          convert x.wireNumeral = x := by
    intro value
    cases value with
    | number y =>
        rw [Value.toJson, Json.ofBinary64]
        split <;> simp_all [Json.ReadsBack]
    | text s => simp [Value.toJson, Json.ReadsBack]
  rw [toJson, Json.ReadsBack, Json.membersReadBack_iff,
    List.forall_mem_map]
  simp only [hValue]
  constructor
  · intro h x hMem hFinite
    rcases List.mem_map.mp hMem with ⟨entry, hEntry, hX⟩
    exact h entry hEntry x hX hFinite
  · intro h entry hEntry x hX hFinite
    exact h x (List.mem_map.mpr ⟨entry, hEntry, hX⟩) hFinite

/-
  The text of a record holds what its document does: an object
  of values is never nested too deeply.
-/
theorem ofText_render_iff
    (h : record.entries.Ascending)
    (hBack : record.toJson.ReadsBack convert) :
    ofText convert record.toJson.render = .ok record ↔
      record.IsFinite := by
  have hDepth : record.toJson.nesting ≤ Json.nestingLimit :=
    Nat.le_trans record.nesting_toJson_le (by decide)
  rw [← ofJson?_toJson_iff, ofText_eq_ok_iff,
    Json.ofText_render (decoded_toJson h) hBack, if_pos hDepth]
  simp [toJson, ofJson?]

------------------------------------------------------------
-- Records Survive Encoding
------------------------------------------------------------

/-
  A record is read from its document exactly if its numbers are
  finite, and so it is from its text, its names being ascending
  as those of a directory are, by every conversion that gives
  its numbers back.  What is read from an object, or from a text
  that holds it, is written as the numbers and the strings of
  that object.  It is read again from there and written as
  before; under each field it has what the object has there.
-/
theorem encoding_keeps_values (convert : Json.Conversion) :
    (∀ record : Record,
      (ofJson? record.toJson = some record ↔
        record.IsFinite) ∧
      (record.entries.Ascending →
        record.toJson.ReadsBack convert →
          (ofText convert record.toJson.render = .ok record ↔
            record.IsFinite))) ∧
    ∀ members : Directory Json,
      (Json.object members).Decoded →
        ∃ before after,
          ofJson? (.object members) = some before ∧
          (∀ input,
            Json.ofText convert input = .ok (.object members) →
              ofText convert input = .ok before) ∧
          before.toJson = .object (Json.primitives members) ∧
          ofJson? before.toJson = some after ∧
          (before.toJson.ReadsBack convert →
            ofText convert before.toJson.render = .ok after) ∧
          after.toJson = before.toJson ∧
          ∀ field,
            before.get? field =
              (members.find? field.storageName).bind
                Value.ofJson? ∧
            after.get? field = before.get? field := by
  refine ⟨fun record => ?_, fun members hDecoded => ?_⟩
  · exact ⟨ofJson?_toJson_iff, ofText_render_iff⟩
  · rw [Json.Decoded, Json.decodedMembers_iff] at hDecoded
    rcases hDecoded with ⟨hNames, hValues⟩
    have hFinite := isFinite_ofMembers hValues
    refine ⟨ofMembers members, ofMembers members, rfl, ?_,
      toJson_ofMembers hValues, ofJson?_toJson hFinite, ?_, rfl,
      fun field => ⟨find?_ofMembers hNames _, rfl⟩⟩
    · intro input hInput
      exact ofText_eq_ok_iff.mpr ⟨members, hInput, rfl⟩
    · intro hBack
      exact (ofText_render_iff (ascending_ofMembers hNames)
        hBack).mpr hFinite

/-
  The largest whole number of 64 bits becomes 2^64, and minus zero
  keeps its sign; a null and a nested object are left out.  Both
  numbers are given back step by step.
-/
theorem encoding_keeps_values_seats :
    let convert : Json.Conversion := Json.Numeral.stepwise
    let whole := Binary64.ofInt 18446744073709551616
    let zero := Binary64.zero.negate
    let members : Directory Json :=
      [("address", .null), ("href", .text "\"\x01"),
        ("lat", .float zero),
        ("name", Json.single "seats" (.integer 1)),
        ("seats", .integer 18446744073709551615)]
    let record : Record :=
      ⟨[("href", .text "\"\x01"), ("lat", .number zero),
        ("seats", .number whole)]⟩
    record.IsFinite ∧
    record.entries.Ascending ∧
    record.toJson.ReadsBack convert ∧
    ofText convert record.toJson.render = .ok record ∧
    (Json.object members).Decoded ∧
    ∃ before after,
      ofText convert (Json.object members).render = .ok before ∧
      before.toJson = record.toJson ∧
      ofText convert before.toJson.render = .ok after ∧
      after.get? .lat = some (.number zero) ∧
      after.get? .seats = some (.number whole) ∧
      after.get? .address = none := by
  intro convert whole zero members record
  have hFinite : record.IsFinite := by decide +kernel
  have hAscending : record.entries.Ascending := by decide
  have hWhole : Binary64.ofInt 18446744073709551615 = whole := by
    decide +kernel
  have hZeroJson : Json.ofBinary64 zero = .float zero := rfl
  have hWholeJson : Json.ofBinary64 whole = .float whole :=
    if_pos (by decide +kernel)
  have hZeroBack : convert zero.wireNumeral = zero := by
    decide +kernel
  have hWholeBack : convert whole.wireNumeral = whole := by
    decide +kernel
  have hBack : record.toJson.ReadsBack convert := by
    rw [readsBack_toJson_iff]
    have hValues : record.values =
        [.text "\"\x01", .number zero, .number whole] :=
      rfl
    intro x hMem _
    rw [hValues, List.mem_cons, List.mem_pair] at hMem
    rcases hMem with hText | hZero | hSeats
    · cases hText
    · rw [Value.number.inj hZero]
      exact hZeroBack
    · rw [Value.number.inj hSeats]
      exact hWholeBack
  have hDecoded : (Json.object members).Decoded := by
    apply Json.decoded_object
    · decide
    · have hFits : Json.FitsWord 18446744073709551615 := by
        decide
      have hOne : Json.FitsWord 1 := by
        decide
      simp [members, zero, Json.decoded_single_iff, Json.Decoded,
        hFits, hOne, Binary64.zero, Binary64.negate,
        Binary64.IsFinite]
  have hMembersBack : (Json.object members).ReadsBack convert := by
    rw [Json.ReadsBack, Json.membersReadBack_iff]
    simp [members, Json.single, Json.ReadsBack,
      Json.MembersReadBack, hZeroBack]
  have hText : Json.ofText convert (Json.object members).render =
      .ok (.object members) := by
    rw [Json.ofText_render hDecoded hMembersBack]
    rfl
  rcases encoding_keeps_values convert with ⟨hRecords, hObjects⟩
  rcases hObjects members hDecoded with
    ⟨before, after, -, hRead, hWritten, -, hAgain, -, hFields⟩
  have hSame : before.toJson = record.toJson := by
    calc before.toJson
        = .object [("href", .text "\"\x01"), ("lat", .float zero),
            ("seats", .float whole)] := by
          rw [hWritten, ← hWhole]
          rfl
      _ = record.toJson := by
          simp only [record, toJson, List.map_cons, List.map_nil,
            Value.toJson, hZeroJson, hWholeJson]
  have hBeforeBack : before.toJson.ReadsBack convert := by
    rw [hSame]
    exact hBack
  have hField : ∀ field, after.get? field =
      (members.find? field.storageName).bind Value.ofJson? :=
    fun field => (hFields field).2.trans (hFields field).1
  refine ⟨hFinite, hAscending, hBack,
    ((hRecords record).2 hAscending hBack).mpr hFinite, hDecoded,
    before, after, hRead _ hText, hSame,
    hAgain hBeforeBack, hField .lat, ?_, hField .address⟩
  rw [← hWhole]
  exact hField .seats

/- The number 51.248178375505404 is not given back so: when its
  digits are divided, the quotient is rounded once more. -/
example :
    let x := Binary64.ofScientific false 51248178375505404 (-15)
    x.wireNumeral.toBinary64 = x ∧
      Json.Numeral.stepwise x.wireNumeral =
        Binary64.ofScientific false 5124817837550541 (-14) := by
  decide +kernel

end Record

end Registrar
