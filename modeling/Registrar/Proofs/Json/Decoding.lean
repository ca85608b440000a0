import Registrar.Json.Typed
import Registrar.Proofs.Sequences

/-
  This file proves that what is read from JSON text is a
  decoded document: whole numbers fit 64 bits, all others are
  finite, and the names of objects ascend.

  A property of values is followed from a reader to the readers
  that are built from it.

  Key definitions include:
    * `Json.Yields`

  Main statements:
    * `Json.yields_readItems`
    * `Json.yields_readMembers`
    * `Json.yields_readValue`
    * `Json.readValue_eq_object_iff`
    * `Json.decoded_of_ofText`
-/

------------------------------------------------------------
-- Kinds Of Documents
------------------------------------------------------------

namespace Registrar

namespace Json

/- Only a string has characters. -/
theorem text?_eq_some_iff
    {document : Json}
    {s : String} :
    document.text? = some s ↔ document = .text s := by
  cases document <;> simp [text?]

/- Only an array has items. -/
theorem list?_eq_some_iff
    {document : Json}
    {items : List Json} :
    document.list? = some items ↔ document = .list items := by
  cases document <;> simp [list?]

/- Only an object has members. -/
theorem object?_eq_some_iff
    {document : Json}
    {members : Directory Json} :
    document.object? = some members ↔
      document = .object members := by
  cases document <;> simp [object?]

end Json

end Registrar

------------------------------------------------------------
-- Properties Of What Is Read
------------------------------------------------------------

namespace Registrar

namespace Json

variable {α : Type} {P Q : α → Prop} {convert : Conversion}

/- Every value that a reader takes off has a property. -/
def Yields
    (P : α → Prop)
    (read : Reader α) : Prop :=
  ∀ input value rest, read input = .ok (value, rest) → P value

/- A weaker property is had as well. -/
theorem Yields.mono
    {read : Reader α}
    (h : Yields P read)
    (hWeak : ∀ value, P value → Q value) :
    Yields Q read :=
  fun input value rest hRead =>
    hWeak value (h input value rest hRead)

/- A value is the whole of a text if only blanks follow it. -/
theorem readWhole_eq_ok_iff
    {read : Reader α}
    {input : String}
    {value : α} :
    readWhole read input = .ok value ↔
      ∃ rest,
        read input.toList = .ok (value, rest) ∧
        skipBlanks rest = [] := by
  unfold readWhole
  cases read input.toList with
  | error e => simp
  | ok result =>
      rcases result with ⟨first, rest⟩
      cases hBlank : skipBlanks rest <;> simp [hBlank]

/- A value that is the whole of a text has the property. -/
theorem Yields.of_readWhole
    {read : Reader α}
    (h : Yields P read)
    {input : String}
    {value : α}
    (hRead : readWhole read input = .ok value) :
    P value := by
  rcases readWhole_eq_ok_iff.mp hRead with ⟨rest, hFirst, -⟩
  exact h _ _ _ hFirst

------------------------------------------------------------
-- Arrays
------------------------------------------------------------

private theorem yields_readMoreItems
    {readItem : Reader α}
    (h : Yields P readItem)
    (limit : Nat) :
    Yields (fun items => ∀ item ∈ items, P item)
      (readMoreItems readItem limit) := by
  induction limit with
  | zero =>
      intro input items rest hRead
      cases hRead
  | succ limit ih =>
      intro input items rest hRead
      unfold readMoreItems at hRead
      split at hRead
      · cases hRead
      · cases hRead
        exact List.forall_mem_nil _
      · split at hRead
        · cases hRead
        · cases hRead
        · rcases bind_eq_ok_iff.mp hRead with
            ⟨⟨item, middle⟩, hItem, hRead⟩
          rcases bind_eq_ok_iff.mp hRead with
            ⟨⟨others, last⟩, hOthers, hRead⟩
          cases hRead
          exact List.forall_mem_cons.mpr
            ⟨h _ _ _ hItem, ih _ _ _ hOthers⟩
      · cases hRead

/- All items of an array have the property. -/
theorem yields_readItems
    {readItem : Reader α}
    (h : Yields P readItem) :
    Yields (fun items => ∀ item ∈ items, P item)
      (readItems readItem) := by
  intro input items rest hRead
  unfold readItems at hRead
  split at hRead
  · cases hRead
  · cases hRead
    exact List.forall_mem_nil _
  · rcases bind_eq_ok_iff.mp hRead with
      ⟨⟨item, middle⟩, hItem, hRead⟩
    rcases bind_eq_ok_iff.mp hRead with
      ⟨⟨others, last⟩, hOthers, hRead⟩
    cases hRead
    exact List.forall_mem_cons.mpr
      ⟨h _ _ _ hItem, yields_readMoreItems h _ _ _ _ hOthers⟩

/- All items of an array of one type have the property. -/
theorem yields_readElements
    {wanted : Wanted}
    {readItem : Reader α}
    (h : Yields P readItem) :
    Yields (fun items => ∀ item ∈ items, P item)
      (readElements convert wanted readItem) := by
  intro input items rest hRead
  unfold readElements at hRead
  split at hRead
  · exact yields_readItems h _ _ _ hRead
  · cases hRead

------------------------------------------------------------
-- Objects
------------------------------------------------------------

private theorem yields_readMember
    {rule : NameRule}
    {readValue : Reader α}
    (h : Yields P readValue)
    (before : List String) :
    Yields (fun member => P member.2)
      (readMember rule readValue before) := by
  intro input member rest hRead
  rcases bind_eq_ok_iff.mp hRead with ⟨⟨name, middle⟩, -, hRead⟩
  dsimp only at hRead
  split at hRead
  · cases hRead
  · rcases bind_eq_ok_iff.mp hRead with ⟨⟨_, middle⟩, -, hRead⟩
    rcases bind_eq_ok_iff.mp hRead with
      ⟨⟨value, last⟩, hValue, hRead⟩
    cases hRead
    exact h _ _ _ hValue

private theorem yields_readMoreMembers
    {rule : NameRule}
    {readValue : Reader α}
    (h : Yields P readValue)
    (limit : Nat)
    (before : List String) :
    Yields (fun members => ∀ member ∈ members, P member.2)
      (readMoreMembers rule readValue limit before) := by
  induction limit generalizing before with
  | zero =>
      intro input members rest hRead
      cases hRead
  | succ limit ih =>
      intro input members rest hRead
      unfold readMoreMembers at hRead
      split at hRead
      · cases hRead
      · cases hRead
        exact List.forall_mem_nil _
      · split at hRead
        · cases hRead
        · cases hRead
        · rcases bind_eq_ok_iff.mp hRead with
            ⟨⟨member, middle⟩, hMember, hRead⟩
          rcases bind_eq_ok_iff.mp hRead with
            ⟨⟨others, last⟩, hOthers, hRead⟩
          cases hRead
          exact List.forall_mem_cons.mpr
            ⟨yields_readMember h _ _ _ _ hMember,
              ih _ _ _ _ hOthers⟩
        · cases hRead
      · cases hRead

/- All values of an object have the property. -/
theorem yields_readMembers
    {rule : NameRule}
    {readValue : Reader α}
    (h : Yields P readValue) :
    Yields (fun members => ∀ member ∈ members, P member.2)
      (readMembers rule readValue) := by
  intro input members rest hRead
  unfold readMembers at hRead
  split at hRead
  · cases hRead
  · cases hRead
    exact List.forall_mem_nil _
  · rcases bind_eq_ok_iff.mp hRead with
      ⟨⟨member, middle⟩, hMember, hRead⟩
    rcases bind_eq_ok_iff.mp hRead with
      ⟨⟨others, last⟩, hOthers, hRead⟩
    cases hRead
    exact List.forall_mem_cons.mpr
      ⟨yields_readMember h _ _ _ _ hMember,
        yields_readMoreMembers h _ _ _ _ _ hOthers⟩
  · cases hRead

/- All values of an object of one type have the property. -/
theorem yields_readEntries
    {wanted : Wanted}
    {rule : NameRule}
    {readValue : Reader α}
    (h : Yields P readValue) :
    Yields (fun members => ∀ member ∈ members, P member.2)
      (readEntries convert wanted rule readValue) := by
  intro input members rest hRead
  unfold readEntries at hRead
  split at hRead
  · exact yields_readMembers h _ _ _ hRead
  · cases hRead

------------------------------------------------------------
-- Decoded Documents
------------------------------------------------------------

/- Items are decoded if each of them is. -/
theorem decodedItems_iff
    {items : List Json} :
    DecodedItems items ↔ ∀ item ∈ items, item.Decoded := by
  induction items with
  | nil => simp [DecodedItems]
  | cons item rest ih =>
      rw [DecodedItems, ih, List.forall_mem_cons]

/- Members are decoded if the value of each is. -/
theorem decodedMembers_iff
    {members : List (String × Json)} :
    DecodedMembers members ↔
      ∀ member ∈ members, member.2.Decoded := by
  induction members with
  | nil => simp [DecodedMembers]
  | cons member rest ih =>
      rw [DecodedMembers, ih, List.forall_mem_cons]

/- What a decoded member holds is decoded. -/
theorem decoded_of_mem
    {members : List (String × Json)}
    {name : String}
    {value : Json}
    (h : DecodedMembers members)
    (hMem : (name, value) ∈ members) :
    value.Decoded :=
  decodedMembers_iff.mp h (name, value) hMem

/- An object of ascending names and decoded values is decoded. -/
theorem decoded_object
    {members : Directory Json}
    (hNames : members.names.Pairwise (· < ·))
    (hValues : ∀ member ∈ members, member.2.Decoded) :
    (object members).Decoded := by
  rw [Decoded, decodedMembers_iff]
  exact ⟨hNames, hValues⟩

/- An array of strings is a decoded document. -/
theorem decoded_ofTexts (texts : List String) :
    (ofTexts texts).Decoded := by
  rw [ofTexts, Decoded, decodedItems_iff]
  intro item hMem
  rcases List.mem_map.mp hMem with ⟨s, -, rfl⟩
  simp [Decoded]

/- An object with one member is decoded if its value is. -/
theorem decoded_single_iff
    {name : String}
    {value : Json} :
    (single name value).Decoded ↔ value.Decoded := by
  simp [single, Decoded, DecodedMembers, Directory.Ascending,
    Directory.names]

/- The document of a binary value is decoded. -/
theorem decoded_ofBinary64 (x : Binary64) :
    (ofBinary64 x).Decoded := by
  unfold ofBinary64
  split
  · next hFinite =>
      rw [Decoded]
      exact hFinite
  · simp [Decoded]

/- A number in range is decoded, and opens nothing. -/
theorem Numeral.decoded_of_toJson?
    {numeral : Numeral}
    {number : Json}
    (h : numeral.toJson? convert = some number) :
    number.Decoded ∧ number.nesting = 0 := by
  unfold toJson? at h
  split at h
  · next value hValue =>
      cases h
      rcases Option.ite_none_right_eq_some.mp hValue with
        ⟨⟨-, -, -, hFits⟩, hEq⟩
      rw [Decoded, ← Option.some.inj hEq]
      exact ⟨hFits, by simp [nesting]⟩
  · split at h
    · next hFinite =>
        cases h
        rw [Decoded]
        exact ⟨hFinite, by simp [nesting]⟩
    · cases h

private theorem yields_readNumber :
    Yields (fun j => j.Decoded ∧ j.nesting = 0)
      (readNumber convert) := by
  intro input number rest hRead
  rcases bind_eq_ok_iff.mp hRead with
    ⟨⟨numeral, last⟩, -, hRead⟩
  dsimp only at hRead
  split at hRead
  · next found hFound =>
      cases hRead
      exact Numeral.decoded_of_toJson? hFound
  · cases hRead

private theorem yields_readScalar :
    Yields (fun j => j.Decoded ∧ j.nesting = 0)
      (readScalar convert) := by
  intro input value rest hRead
  unfold readScalar at hRead
  split at hRead
  · cases hRead
  · rcases bind_eq_ok_iff.mp hRead with ⟨_, -, hRead⟩
    cases hRead
    simp [Decoded, nesting]
  · rcases bind_eq_ok_iff.mp hRead with ⟨_, -, hRead⟩
    cases hRead
    simp [Decoded, nesting]
  · rcases bind_eq_ok_iff.mp hRead with ⟨_, -, hRead⟩
    cases hRead
    simp [Decoded, nesting]
  · rcases bind_eq_ok_iff.mp hRead with ⟨_, -, hRead⟩
    cases hRead
    simp [Decoded, nesting]
  · split at hRead
    · exact yields_readNumber _ _ _ hRead
    · cases hRead

/- What an array, an object and a scalar have, a value has. -/
private theorem yields_readValueWith
    {P : Json → Prop}
    {readArray : Reader (List Json)}
    {readObject : Reader (List (String × Json))}
    (hArray : Yields (fun items => P (.list items)) readArray)
    (hObject :
      Yields
        (fun members =>
          P (.object (Directory.ofEntries members)))
        readObject)
    (hScalar : Yields P (readScalar convert)) :
    Yields P (readValueWith convert readArray readObject) := by
  intro input value rest hRead
  unfold readValueWith at hRead
  split at hRead
  · rcases bind_eq_ok_iff.mp hRead with
      ⟨⟨items, last⟩, hItems, hRead⟩
    cases hRead
    exact hArray _ _ _ hItems
  · rcases bind_eq_ok_iff.mp hRead with
      ⟨⟨members, last⟩, hMembers, hRead⟩
    cases hRead
    exact hObject _ _ _ hMembers
  · exact hScalar _ _ _ hRead

/- Where nothing may be opened nothing is read. -/
private theorem yields_refuseOpening :
    Yields P refuseOpening := by
  intro input value rest hRead
  cases hRead

/- A value is a decoded document, however deep it is. -/
theorem yields_readValue (depth : Nat) :
    Yields Decoded (readValue convert depth) := by
  have hScalar : Yields Decoded (readScalar convert) :=
    yields_readScalar.mono fun _ h => h.1
  induction depth with
  | zero =>
      exact yields_readValueWith yields_refuseOpening
        yields_refuseOpening hScalar
  | succ depth ih =>
      refine yields_readValueWith ?_ ?_ hScalar
      · refine (yields_readItems ih).mono ?_
        intro items hItems
        rw [Decoded, decodedItems_iff]
        exact hItems
      · refine (yields_readMembers ih).mono ?_
        intro members hMembers
        apply decoded_object (Directory.ascending_ofEntries _)
        intro member hMem
        exact hMembers member (Directory.mem_of_mem_ofEntries hMem)

/- An object is read as the members of an object are. -/
theorem readValue_eq_object_iff
    {depth : Nat}
    {input rest : List Char}
    {members : Directory Json}
    (wanted : Wanted) :
    readValue convert (depth + 1) input =
        .ok (.object members, rest) ↔
      ∃ entries,
        readEntries convert wanted anyName
            (readValue convert depth) input =
          .ok (entries, rest) ∧
        Directory.ofEntries entries = members := by
  constructor
  · intro hRead
    unfold readValue readValueWith at hRead
    split at hRead
    · rcases bind_eq_ok_iff.mp hRead with ⟨_, -, hRead⟩
      cases hRead
    · next hText =>
        rcases bind_eq_ok_iff.mp hRead with
          ⟨⟨entries, last⟩, hEntries, hRead⟩
        cases hRead
        refine ⟨entries, ?_, rfl⟩
        unfold readEntries
        rw [hText]
        exact hEntries
    · have hScalar := (yields_readScalar _ _ _ hRead).2
      rw [nesting] at hScalar
      cases hScalar
  · rintro ⟨entries, hEntries, rfl⟩
    unfold readEntries at hEntries
    split at hEntries
    · next hText =>
        unfold readValue readValueWith
        rw [hText]
        exact bind_eq_ok_iff.mpr ⟨_, hEntries, rfl⟩
    · cases hEntries

/- What a text holds is a decoded document. -/
theorem decoded_of_ofText
    {input : String}
    {document : Json}
    (h : ofText convert input = .ok document) :
    document.Decoded :=
  (yields_readValue nestingLimit).of_readWhole h

------------------------------------------------------------
-- The Nesting Of What Is Read
------------------------------------------------------------

/- Items are nested as deeply as the deepest of them. -/
theorem nestingOfItems_le_iff
    {items : List Json}
    {depth : Nat} :
    nestingOfItems items ≤ depth ↔
      ∀ item ∈ items, item.nesting ≤ depth := by
  induction items with
  | nil => simp [nestingOfItems]
  | cons item rest ih =>
      rw [nestingOfItems, Nat.max_le, ih, List.forall_mem_cons]

/- Members are nested as deeply as the deepest value. -/
theorem nestingOfMembers_le_iff
    {members : List (String × Json)}
    {depth : Nat} :
    nestingOfMembers members ≤ depth ↔
      ∀ member ∈ members, member.2.nesting ≤ depth := by
  induction members with
  | nil => simp [nestingOfMembers]
  | cons member rest ih =>
      rw [nestingOfMembers, Nat.max_le, ih, List.forall_mem_cons]

/- A value is nested at most as deeply as is allowed. -/
theorem nesting_of_readValue (depth : Nat) :
    Yields (fun j => j.nesting ≤ depth)
      (readValue convert depth) := by
  have hScalar : ∀ {depth : Nat},
      Yields (fun j => j.nesting ≤ depth) (readScalar convert) :=
    yields_readScalar.mono fun _ h => by omega
  induction depth with
  | zero =>
      exact yields_readValueWith yields_refuseOpening
        yields_refuseOpening hScalar
  | succ depth ih =>
      refine yields_readValueWith ?_ ?_ hScalar
      · refine (yields_readItems ih).mono ?_
        intro items hItems
        rw [nesting]
        exact Nat.succ_le_succ (nestingOfItems_le_iff.mpr hItems)
      · refine (yields_readMembers ih).mono ?_
        intro members hMembers
        rw [nesting]
        apply Nat.succ_le_succ (nestingOfMembers_le_iff.mpr _)
        intro member hMem
        exact hMembers member (Directory.mem_of_mem_ofEntries hMem)

/- What a text holds is not nested too deeply. -/
theorem nesting_of_ofText
    {input : String}
    {document : Json}
    (h : ofText convert input = .ok document) :
    document.nesting ≤ nestingLimit :=
  (nesting_of_readValue nestingLimit).of_readWhole h

end Json

end Registrar
