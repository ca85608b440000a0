import Registrar.Data.Record
import Registrar.Proofs.Json.Decoding
import Registrar.Proofs.Numeric.Finite

/-
  This file proves what can be relied on in the values of
  records: a record that has been read from a JSON text holds
  finite numbers only.

  Key definitions include:
    * `Record.values`
    * `Value.IsNan`
    * `Record.WithoutNan`
    * `Record.IsFinite`
    * `IsTextOf`
    * `Json.binaryOperand`

  Main statements:
    * `Record.isFinite_of_ofText`
    * `Record.isFinite_of_listOfText`
-/

------------------------------------------------------------
-- Values Of Records
------------------------------------------------------------

namespace Registrar

/- A text, or a number that is finite. -/
def Value.IsFinite : Value → Prop
| .number x => x.IsFinite
| .text _ => True

instance (value : Value) : Decidable value.IsFinite := by
  cases value <;> unfold Value.IsFinite <;> infer_instance

/- What is not a number in the place of one. -/
def Value.IsNan : Value → Prop
| .number x => x.IsNan
| .text _ => False

instance (value : Value) : Decidable value.IsNan := by
  cases value <;> unfold Value.IsNan <;> infer_instance

/- A finite value is not one that is no number. -/
theorem Value.IsFinite.not_isNan
    {value : Value}
    (h : value.IsFinite) :
    ¬ value.IsNan := by
  cases value with
  | number x => exact Binary64.IsFinite.not_isNan h
  | text s => exact not_false

namespace Record

/- All values of a record. -/
def values (record : Record) : List Value :=
  record.entries.map Prod.snd

/- A record whose numbers are numbers indeed. -/
def WithoutNan (record : Record) : Prop :=
  ∀ value ∈ record.values, ¬ value.IsNan

instance (record : Record) : Decidable record.WithoutNan := by
  unfold WithoutNan
  infer_instance

/- A record whose numbers are finite. -/
def IsFinite (record : Record) : Prop :=
  ∀ value ∈ record.values, value.IsFinite

instance (record : Record) : Decidable record.IsFinite := by
  unfold IsFinite
  infer_instance

/- What is found under a field is a value of the record. -/
theorem mem_values_of_get?
    {record : Record}
    {field : Field}
    {value : Value}
    (h : record.get? field = some value) :
    value ∈ record.values :=
  List.mem_map_of_mem (Directory.mem_of_find? h)

/- A finite number is a number. -/
theorem IsFinite.withoutNan
    {record : Record}
    (h : record.IsFinite) :
    record.WithoutNan :=
  fun value hMem => (h value hMem).not_isNan

/- A number of such a record is a number indeed. -/
theorem WithoutNan.not_isNan
    {record : Record}
    {field : Field}
    {x : Binary64}
    (h : record.WithoutNan)
    (hGet : record.get? field = some (.number x)) :
    ¬ x.IsNan :=
  h _ (mem_values_of_get? hGet)

end Record

/- A text that one of several records holds. -/
def IsTextOf
    (records : List Record)
    (s : String) : Prop :=
  ∃ record ∈ records, Value.text s ∈ record.values

------------------------------------------------------------
-- Records In Documents
------------------------------------------------------------

-- A value in units is not to be computed.
attribute [local irreducible] twoTo

/- A whole number that fits 64 bits has a finite value. -/
theorem Json.FitsWord.isFinite_ofInt
    {n : Int}
    (h : Json.FitsWord n) :
    (Binary64.ofInt n).IsFinite := by
  apply Binary64.isFinite_ofInt
  rcases h with ⟨hLow, hHigh⟩
  have hSmall : twoTo 63 < twoTo 64 :=
    twoTo_lt_twoTo (by decide)
  have hLarge : twoTo 64 < twoTo 1022 :=
    twoTo_lt_twoTo (by decide)
  omega

/- A whole number becomes its binary value. -/
def Json.binaryOperand : Json → Json
| .integer n => .float (Binary64.ofInt n)
| document => document

/- A decoded number is written as its binary value. -/
theorem Json.ofBinary64_eq_binaryOperand
    {document : Json}
    {x : Binary64}
    (hDecoded : document.Decoded)
    (h : document.number? = some x) :
    Json.ofBinary64 x = document.binaryOperand := by
  cases document with
  | integer n =>
      rw [Json.Decoded] at hDecoded
      rw [← Option.some.inj h, Json.ofBinary64,
        if_pos hDecoded.isFinite_ofInt]
      rfl
  | float y =>
      rw [Json.Decoded] at hDecoded
      rw [← Option.some.inj h, Json.ofBinary64, if_pos hDecoded]
      rfl
  | _ => cases h

/- A value of a decoded document is finite. -/
theorem Value.isFinite_of_ofJson?
    {document : Json}
    {value : Value}
    (hDecoded : document.Decoded)
    (h : ofJson? document = some value) :
    value.IsFinite := by
  cases document with
  | integer n =>
      rw [Json.Decoded] at hDecoded
      rw [← Option.some.inj h]
      exact hDecoded.isFinite_ofInt
  | float x =>
      rw [Json.Decoded] at hDecoded
      rw [← Option.some.inj h]
      exact hDecoded
  | text s =>
      rw [← Option.some.inj h]
      trivial
  | null => cases h
  | boolean b => cases h
  | list items => cases h
  | object members => cases h

namespace Record

variable {convert : Json.Conversion}

/- Decoded members make a record of finite numbers. -/
theorem isFinite_ofMembers
    {members : Directory Json}
    (h : ∀ member ∈ members, member.2.Decoded) :
    (ofMembers members).IsFinite := by
  intro value hMem
  rcases List.mem_map.mp hMem with ⟨⟨name, found⟩, hEntry, rfl⟩
  rcases List.mem_filterMap.mp hEntry with
    ⟨member, hMember, hSome⟩
  rcases Option.map_eq_some_iff.mp hSome with
    ⟨inner, hInner, hEq⟩
  cases hEq
  exact Value.isFinite_of_ofJson? (h member hMember) hInner

private theorem yields_read (depth : Nat) :
    Json.Yields IsFinite (read convert depth) := by
  intro input record rest hRead
  rcases bind_eq_ok_iff.mp hRead with
    ⟨⟨members, last⟩, hMembers, hRead⟩
  cases hRead
  apply isFinite_ofMembers
  intro member hMem
  exact Json.yields_readEntries (Json.yields_readValue depth)
    _ _ _ hMembers member (Directory.mem_of_mem_ofEntries hMem)

/- A record that is read holds finite numbers. -/
theorem isFinite_of_ofText
    {input : String}
    {record : Record}
    (h : ofText convert input = .ok record) :
    record.IsFinite :=
  (yields_read _).of_readWhole h

/- Records that are read hold finite numbers. -/
theorem isFinite_of_listOfText
    {input : String}
    {records : List Record}
    (h : listOfText convert input = .ok records) :
    ∀ record ∈ records, record.IsFinite :=
  (Json.yields_readElements (yields_read _)).of_readWhole h

end Record

end Registrar
