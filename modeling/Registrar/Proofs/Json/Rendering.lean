import Registrar.Json.Document
import Registrar.Proofs.Json.Decoding
import Registrar.Proofs.Json.Digits

/-
  This file proves that documents that are written can be read,
  by every conversion that gives their numbers back.  A decoded
  document is read off its text unless it is nested too deeply,
  and that is then the one thing wrong with it.

  What is read off the front of a text does not depend on what
  follows, unless a number goes on there.

  Key definitions include:
    * `Json.ReadsBack`

  Main statements:
    * `Json.Decoded.readsBack`
    * `Json.readCharacters_quoted`
    * `Json.readValue_characters`
    * `Json.ofText_render`
-/

------------------------------------------------------------
-- Strings
------------------------------------------------------------

namespace Registrar

namespace Json

variable {convert : Conversion}

/- The escape of a control character denotes it. -/
private theorem codeUnit?_hexDigit :
    ∀ n < 32,
      codeUnit? '0' '0' (hexDigit (n / 16)) (hexDigit (n % 16)) =
        some n := by
  decide

/- A character is read as it is written. -/
theorem readCharacters_escaped
    {c : Char}
    {input cs rest : List Char}
    (h : readCharacters none input = .ok (cs, rest)) :
    readCharacters none (escapedCharacter c ++ input) =
      .ok (c :: cs, rest) := by
  unfold escapedCharacter
  split
  case h_8 hQuote hEscape _ _ _ _ _ =>
    split
    · next hControl =>
        have hUnit := codeUnit?_hexDigit c.toNat hControl
        have hTrailing : ¬ IsTrailing c.toNat := by
          unfold IsTrailing
          omega
        have hLeading : ¬ IsLeading c.toNat := by
          unfold IsLeading
          omega
        simp only [List.cons_append, List.nil_append]
        unfold readCharacters
        simp [hUnit, joinUnit, hTrailing, hLeading, h]
    · next hPlain =>
        exact readCharacters_plain hEscape hQuote
          (Nat.not_lt.mp hPlain) h
  all_goals
    simp only [List.cons_append, List.nil_append]
    unfold readCharacters
    simp [shortEscape?, h]

/- The rest of a string is read up to its closing quote. -/
theorem readCharacters_quoted
    (cs rest : List Char) :
    readCharacters none
        (cs.flatMap escapedCharacter ++ '"' :: rest) =
      .ok (cs, rest) := by
  induction cs with
  | nil =>
      rw [List.flatMap_nil, List.nil_append]
      unfold readCharacters
      simp
  | cons c cs ih =>
      rw [List.flatMap_cons, List.append_assoc]
      exact readCharacters_escaped ih

/- A string is read off its text, after the opening quote. -/
theorem readText_quoted
    (s : String)
    (rest : List Char) :
    readText (s.toList.flatMap escapedCharacter ++ '"' :: rest) =
      .ok (s, rest) := by
  unfold readText
  rw [readCharacters_quoted, ok_bind]
  simp only [String.ofList_toList]
  rfl

------------------------------------------------------------
-- Scalars
------------------------------------------------------------

section Scalars

variable {readArray : Reader (List Json)}
variable {readObject : Reader (List (String × Json))}
variable {input : List Char}

/- A number starts with its sign or with a digit. -/
private theorem exists_head_of_readNumber
    {result : Json × List Char}
    (h : readNumber convert input = .ok result) :
    ∃ c cs,
      input = c :: cs ∧ (c = '-' ∨ c.isDigit = true) := by
  rcases bind_eq_ok_iff.mp h with ⟨⟨n, middle⟩, hNumeral, -⟩
  cases input with
  | nil => cases hNumeral
  | cons c cs =>
      refine ⟨c, cs, rfl, or_iff_not_imp_left.mpr fun hSign => ?_⟩
      by_contra hDigit
      have hNone : readWholePart (c :: cs) =
          .error .invalidNumber := by
        simp [readWholePart, readDigits, hDigit, missingDigit]
      have hNoSign : numberSign (c :: cs) = (false, c :: cs) := by
        unfold numberSign
        split
        · next hMinus => exact absurd (List.cons.inj hMinus).1 hSign
        · rfl
      unfold readNumeral at hNumeral
      rw [hNoSign] at hNumeral
      dsimp only at hNumeral
      rw [hNone] at hNumeral
      cases hNumeral

/- A sign or a digit is none of the other characters. -/
private theorem ne_of_head
    {c : Char}
    (h : c = '-' ∨ c.isDigit = true)
    (other : Char)
    (hOther : (other == '-' || other.isDigit) = false) :
    c ≠ other := by
  intro hEq
  subst hEq
  rcases Bool.or_eq_false_iff.mp hOther with ⟨hSign, hDigit⟩
  rcases h with hMinus | hIsDigit
  · exact absurd hMinus (beq_eq_false_iff_ne.mp hSign)
  · rw [hDigit] at hIsDigit
    cases hIsDigit

private theorem isBlank_of_head
    {c : Char}
    (h : c = '-' ∨ c.isDigit = true) :
    isBlank c = false := by
  have hNe := ne_of_head h
  simp [isBlank, hNe ' ' rfl, hNe '\t' rfl, hNe '\n' rfl,
    hNe '\r' rfl]

/- What opens nothing is a scalar. -/
private theorem readValueWith_cons
    {c : Char}
    {cs : List Char}
    (hSkip : skipBlanks (c :: cs) = c :: cs)
    (hArray : c ≠ '[')
    (hObject : c ≠ '\x7b') :
    readValueWith convert readArray readObject (c :: cs) =
      readScalar convert (c :: cs) := by
  unfold readValueWith
  rw [hSkip]
  split
  · next hEq => exact absurd (List.cons.inj hEq).1 hArray
  · next hEq => exact absurd (List.cons.inj hEq).1 hObject
  · rfl

/- What is read as a number is read as a value. -/
theorem readValueWith_of_readNumber
    {result : Json × List Char}
    (h : readNumber convert input = .ok result) :
    readValueWith convert readArray readObject input =
      .ok result := by
  rcases exists_head_of_readNumber h with ⟨c, cs, rfl, hHead⟩
  have hNe := ne_of_head hHead
  have hSkip : skipBlanks (c :: cs) = c :: cs :=
    skipBlanks_of_not_isBlank cs (isBlank_of_head hHead)
  rw [readValueWith_cons hSkip (hNe '[' rfl) (hNe '\x7b' rfl)]
  unfold readScalar
  rw [hSkip]
  split
  case h_6 first rest _ _ _ _ hEq =>
    rcases List.cons.inj hEq with ⟨rfl, rfl⟩
    rw [if_pos hHead]
    exact h
  case h_1 hEq => cases hEq
  all_goals
    next hEq =>
      exact absurd (List.cons.inj hEq).1 (hNe _ rfl)

end Scalars

------------------------------------------------------------
-- Limited Nesting
------------------------------------------------------------

/-
  The outcome of reading a value that can only be nested too
  deeply.
-/
def within
    {α : Type}
    (depth nesting : Nat)
    (value : α)
    (rest : List Char) : Except ReadError (α × List Char) :=
  if nesting ≤ depth then
    .ok (value, rest)
  else
    .error .nestedTooDeep

section Within

variable {α β : Type} {depth : Nat}

/- What opens nothing is never nested too deeply. -/
private theorem within_zero
    (value : α)
    (rest : List Char) :
    within depth 0 value rest = .ok (value, rest) :=
  if_pos (Nat.zero_le depth)

/- The deeper of two values that are read decides. -/
private theorem within_bind
    {inner outer : Nat}
    {value : α}
    {result : β}
    {middle rest : List Char}
    {next : α × List Char → Except ReadError (β × List Char)}
    (h : next (value, middle) = within depth outer result rest) :
    (within depth inner value middle >>= next) =
      within depth (max inner outer) result rest := by
  unfold within at h ⊢
  by_cases hInner : inner ≤ depth
  · rw [if_pos hInner, ok_bind, h]
    simp only [Nat.max_le, hInner, true_and]
  · rw [if_neg hInner, error_bind]
    simp only [Nat.max_le, hInner, false_and, if_false]

/- What is made of a value is nested as the value is. -/
private theorem within_map
    (f : α → β)
    (nesting : Nat)
    (value : α)
    (rest : List Char) :
    (within depth nesting value rest >>=
        fun (value, rest) => .ok (f value, rest)) =
      within depth nesting (f value) rest := by
  unfold within
  split
  · rfl
  · rfl

/- One level more may stand where one level more is allowed. -/
private theorem within_succ
    (nesting : Nat)
    (value : α)
    (rest : List Char) :
    within (depth + 1) (nesting + 1) value rest =
      within depth nesting value rest := by
  unfold within
  simp only [Nat.add_le_add_iff_right]

/- Nothing that opens something stands where nothing may open. -/
private theorem within_zero_succ
    (nesting : Nat)
    (value : α)
    (rest : List Char) :
    within 0 (nesting + 1) value rest = .error .nestedTooDeep :=
  if_neg (Nat.not_succ_le_zero nesting)

end Within

------------------------------------------------------------
-- Numbers That Are Given Back
------------------------------------------------------------

mutual

/-
  A conversion gives back all binary values of a document from
  the numerals that are written for them.
-/
def ReadsBack (convert : Conversion) : Json → Prop
| .float x => convert x.wireNumeral = x
| .list items => ItemsReadBack convert items
| .object members => MembersReadBack convert members
| _ => True

/- It gives back those of every item. -/
def ItemsReadBack (convert : Conversion) : List Json → Prop
| [] => True
| item :: rest =>
    item.ReadsBack convert ∧ ItemsReadBack convert rest

/- It gives back those of every member. -/
def MembersReadBack
    (convert : Conversion) : List (String × Json) → Prop
| [] => True
| (_, value) :: rest =>
    value.ReadsBack convert ∧ MembersReadBack convert rest

end

theorem itemsReadBack_iff
    {items : List Json} :
    ItemsReadBack convert items ↔
      ∀ item ∈ items, item.ReadsBack convert := by
  induction items with
  | nil => simp [ItemsReadBack]
  | cons item rest ih =>
      rw [ItemsReadBack, ih, List.forall_mem_cons]

theorem membersReadBack_iff
    {members : List (String × Json)} :
    MembersReadBack convert members ↔
      ∀ member ∈ members, member.2.ReadsBack convert := by
  induction members with
  | nil => simp [MembersReadBack]
  | cons member rest ih =>
      rw [MembersReadBack, ih, List.forall_mem_cons]

/- An object with one member holds the numbers of its value. -/
theorem readsBack_single_iff
    {name : String}
    {value : Json} :
    (single name value).ReadsBack convert ↔
      value.ReadsBack convert := by
  simp [single, ReadsBack, MembersReadBack]

/- An array of strings holds no numbers. -/
theorem readsBack_ofTexts (texts : List String) :
    (ofTexts texts).ReadsBack convert := by
  rw [ofTexts, ReadsBack, itemsReadBack_iff, List.forall_mem_map]
  intro s _
  simp [ReadsBack]

mutual

/-
  If all finite values are given back, those of every decoded
  document are.
-/
theorem Decoded.readsBack
    (hBack : ∀ x : Binary64, x.IsFinite →
      convert x.wireNumeral = x) :
    (j : Json) → j.Decoded → j.ReadsBack convert
| .null, _ => by simp [ReadsBack]
| .boolean _, _ => by simp [ReadsBack]
| .integer _, _ => by simp [ReadsBack]
| .text _, _ => by simp [ReadsBack]
| .float x, h => by
    rw [Decoded] at h
    rw [ReadsBack]
    exact hBack x h
| .list items, h => by
    rw [Decoded] at h
    rw [ReadsBack]
    exact DecodedItems.itemsReadBack hBack items h
| .object members, h => by
    rw [Decoded] at h
    rw [ReadsBack]
    exact DecodedMembers.membersReadBack hBack members h.2

private theorem DecodedItems.itemsReadBack
    (hBack : ∀ x : Binary64, x.IsFinite →
      convert x.wireNumeral = x) :
    (items : List Json) → DecodedItems items →
      ItemsReadBack convert items
| [], _ => by simp [ItemsReadBack]
| item :: rest, h => by
    rw [DecodedItems] at h
    rw [ItemsReadBack]
    exact ⟨Decoded.readsBack hBack item h.1,
      DecodedItems.itemsReadBack hBack rest h.2⟩

private theorem DecodedMembers.membersReadBack
    (hBack : ∀ x : Binary64, x.IsFinite →
      convert x.wireNumeral = x) :
    (members : List (String × Json)) → DecodedMembers members →
      MembersReadBack convert members
| [], _ => by simp [MembersReadBack]
| (_, value) :: rest, h => by
    rw [DecodedMembers] at h
    rw [MembersReadBack]
    exact ⟨Decoded.readsBack hBack value h.1,
      DecodedMembers.membersReadBack hBack rest h.2⟩

end

------------------------------------------------------------
-- Documents
------------------------------------------------------------

/- A value starts with no blank and no closing bracket. -/
private theorem exists_characters_eq
    {j : Json}
    (h : j.Decoded) :
    ∃ c cs,
      j.characters = c :: cs ∧ isBlank c = false ∧ c ≠ ']' := by
  have hNumber :
      ∀ {text : List Char} {result : Json × List Char},
        readNumber Numeral.toBinary64 text = .ok result →
          ∃ c cs,
            text = c :: cs ∧ isBlank c = false ∧ c ≠ ']' := by
    intro text result hRead
    rcases exists_head_of_readNumber hRead with
      ⟨c, cs, hText, hHead⟩
    exact ⟨c, cs, hText, isBlank_of_head hHead,
      ne_of_head hHead ']' rfl⟩
  cases j with
  | null => exact ⟨_, _, rfl, by decide, by decide⟩
  | boolean b =>
      cases b <;> exact ⟨_, _, rfl, by decide, by decide⟩
  | integer n =>
      rw [Decoded] at h
      have hRead : readNumber Numeral.toBinary64
          ((integer n).characters ++ []) = .ok (.integer n, []) :=
        readNumber_integer h endsNumeral_nil
      rw [List.append_nil] at hRead
      exact hNumber hRead
  | float x =>
      rw [Decoded] at h
      have hRead := readNumber_wireCharacters h
        (Binary64.toBinary64_wireNumeral h) endsNumeral_nil
      rw [List.append_nil] at hRead
      exact hNumber hRead
  | text s => exact ⟨_, _, rfl, by decide, by decide⟩
  | list items =>
      cases items <;> exact ⟨_, _, rfl, by decide, by decide⟩
  | object members =>
      rcases members with _ | ⟨⟨name, value⟩, members⟩ <;>
        exact ⟨_, _, rfl, by decide, by decide⟩

/- After an item comes a comma or the closing bracket. -/
private theorem endsNumeral_items
    (items : List Json)
    (rest : List Char) :
    EndsNumeral (charactersOfItems items ++ rest) := by
  intro c hMem
  cases items <;> (cases hMem; decide)

/- After a member comes a comma or the closing brace. -/
private theorem endsNumeral_members
    (members : List (String × Json))
    (rest : List Char) :
    EndsNumeral (charactersOfMembers members ++ rest) := by
  intro c hMem
  rcases members with _ | ⟨⟨name, value⟩, members⟩ <;>
    (cases hMem; decide)

/- A member starts with a quote, which its name follows. -/
private theorem quotedCharacters_append
    (name : String)
    (value more rest : List Char) :
    quotedCharacters name ++ ':' :: (value ++ more) ++ rest =
      '"' :: (name.toList.flatMap escapedCharacter ++
        '"' :: ':' :: (value ++ (more ++ rest))) := by
  simp [quotedCharacters]

/- Every further item takes a comma at least. -/
private theorem length_items_lt
    (items : List Json)
    (rest : List Char) :
    items.length < (charactersOfItems items ++ rest).length + 1 := by
  induction items with
  | nil => exact Nat.succ_pos _
  | cons item items ih =>
      rw [charactersOfItems, List.cons_append, List.append_assoc,
        List.length_cons, List.length_cons, List.length_append]
      omega

/- Every further member takes a comma at least. -/
private theorem length_members_lt
    (members : List (String × Json))
    (rest : List Char) :
    members.length <
      (charactersOfMembers members ++ rest).length + 1 := by
  induction members with
  | nil => exact Nat.succ_pos _
  | cons member members ih =>
      rcases member with ⟨name, value⟩
      rw [charactersOfMembers, List.cons_append,
        quotedCharacters_append, List.length_cons,
        List.length_cons, List.length_cons, List.length_append,
        List.length_cons, List.length_cons, List.length_append]
      omega

section Parts

variable {readItem : Reader Json}
variable {c : Char} {cs : List Char}

/- A first item is read where the array does not end. -/
private theorem readItems_cons
    (hBlank : isBlank c = false)
    (hEnd : c ≠ ']') :
    readItems readItem (c :: cs) = (do
      let (item, rest) ← readItem (c :: cs)
      let (items, rest) ←
        readMoreItems readItem (rest.length + 1) rest
      return (item :: items, rest)) := by
  unfold readItems
  rw [skipBlanks_of_not_isBlank cs hBlank]
  split
  · next hNil => cases hNil
  · next hEq => exact absurd (List.cons.inj hEq).1 hEnd
  · rfl

/- A further item is read after a comma. -/
private theorem readMoreItems_comma
    (limit : Nat)
    (hBlank : isBlank c = false)
    (hEnd : c ≠ ']') :
    readMoreItems readItem (limit + 1) (',' :: c :: cs) = (do
      let (item, rest) ← readItem (c :: cs)
      let (items, rest) ← readMoreItems readItem limit rest
      return (item :: items, rest)) := by
  have hSkip := skipBlanks_of_not_isBlank cs hBlank
  conv_lhs => unfold readMoreItems
  rw [skipBlanks_of_not_isBlank _ (by decide)]
  simp only [hSkip]
  split
  · next hNil => cases hNil
  · next hEq => exact absurd (List.cons.inj hEq).1 hEnd
  · rfl

/- A member is read off its name, a colon and its value. -/
private theorem readMember_characters
    {depth nesting : Nat}
    {value : Json}
    {input rest : List Char}
    (before : List String)
    (name : String)
    (h : readItem input = within depth nesting value rest) :
    readMember anyName readItem before
        (name.toList.flatMap escapedCharacter ++
          '"' :: ':' :: input) =
      within depth nesting (name, value) rest := by
  unfold readMember
  rw [readText_quoted, ok_bind, ← within_map (name, ·), ← h]
  rfl

end Parts

section Values

variable {depth : Nat} {rest : List Char}

/- What is no array and no object is read at every depth. -/
private theorem readValue_of_readValueWith
    {input : List Char}
    {j : Json}
    (hNesting : j.nesting = 0)
    (h : ∀ readArray readObject,
      readValueWith convert readArray readObject input =
        .ok (j, rest)) :
    readValue convert depth input =
      within depth j.nesting j rest := by
  rw [hNesting, within_zero]
  cases depth <;> exact h _ _

/- An array is read if its items are, one level below. -/
private theorem readValue_list
    {input : List Char}
    {items : List Json}
    (h : ∀ depth, readItems (readValue convert depth) input =
      within depth (nestingOfItems items) items rest) :
    readValue convert depth ('[' :: input) =
      within depth (list items).nesting (list items) rest := by
  rw [nesting]
  cases depth with
  | zero => exact (within_zero_succ _ _ _).symm
  | succ depth =>
      rw [within_succ, ← within_map list, ← h depth]
      rfl

/- An object is read if its members are, one level below. -/
private theorem readValue_object
    {input : List Char}
    {members : List (String × Json)}
    (hNames : Directory.Ascending members)
    (h : ∀ depth,
      readMembers anyName (readValue convert depth) input =
        within depth (nestingOfMembers members) members rest) :
    readValue convert depth ('\x7b' :: input) =
      within depth (object members).nesting (object members)
        rest := by
  rw [nesting]
  cases depth with
  | zero => exact (within_zero_succ _ _ _).symm
  | succ depth =>
      have hSame : object members =
          object (Directory.ofEntries members) := by
        rw [Directory.ofEntries_of_ascending hNames]
      rw [within_succ, hSame,
        ← within_map (fun members =>
          object (Directory.ofEntries members)), ← h depth]
      rfl

end Values

mutual

/-
  A document is read off its text, unless it is nested too
  deeply.
-/
theorem readValue_characters : (j : Json) → j.Decoded →
    j.ReadsBack convert →
    ∀ (depth : Nat) (rest : List Char), EndsNumeral rest →
      readValue convert depth (j.characters ++ rest) =
        within depth j.nesting j rest
| .null, _, _, _, _, _ =>
    readValue_of_readValueWith (by simp [nesting])
      fun _ _ => rfl
| .boolean true, _, _, _, _, _ =>
    readValue_of_readValueWith (by simp [nesting])
      fun _ _ => rfl
| .boolean false, _, _, _, _, _ =>
    readValue_of_readValueWith (by simp [nesting])
      fun _ _ => rfl
| .integer n, h, _, depth, rest, hRest => by
    rw [Decoded] at h
    apply readValue_of_readValueWith (by simp [nesting])
    intro readArray readObject
    exact readValueWith_of_readNumber
      (readNumber_integer h hRest)
| .float x, h, hBack, depth, rest, hRest => by
    rw [Decoded] at h
    rw [ReadsBack] at hBack
    apply readValue_of_readValueWith (by simp [nesting])
    intro readArray readObject
    exact readValueWith_of_readNumber
      (readNumber_wireCharacters h hBack hRest)
| .text s, _, _, depth, rest, _ => by
    apply readValue_of_readValueWith (by simp [nesting])
    intro readArray readObject
    rw [characters, quotedCharacters, List.cons_append,
      List.append_assoc]
    exact bind_eq_ok_iff.mpr ⟨_, readText_quoted s rest, rfl⟩
| .list [], _, _, depth, rest, _ => by
    apply readValue_list
    intro depth
    exact (within_zero _ rest).symm
| .list (item :: items), h, hBack, depth, rest, hRest => by
    rw [Decoded, DecodedItems] at h
    rcases h with ⟨hItem, hItems⟩
    rw [ReadsBack, ItemsReadBack] at hBack
    rcases hBack with ⟨hItemBack, hItemsBack⟩
    rcases exists_characters_eq hItem with
      ⟨c, cs, hText, hBlank, hEnd⟩
    rw [characters, List.cons_append, List.append_assoc]
    apply readValue_list
    intro depth
    -- Whatever follows the first item goes on with no number.
    have hFirst := readValue_characters item hItem hItemBack depth
      (charactersOfItems items ++ rest)
      (endsNumeral_items items rest)
    rw [hText, List.cons_append] at hFirst ⊢
    rw [readItems_cons hBlank hEnd, hFirst, nestingOfItems]
    apply within_bind
    dsimp only
    rw [readMoreItems_characters items hItems hItemsBack depth _
      rest (length_items_lt items rest)]
    exact within_map (item :: ·) _ _ _
| .object [], h, _, depth, rest, _ => by
    rw [Decoded] at h
    apply readValue_object h.1
    intro depth
    exact (within_zero _ rest).symm
| .object ((name, value) :: members), h, hBack, depth, rest,
    hRest => by
    rw [Decoded, DecodedMembers] at h
    rcases h with ⟨hNames, hValue, hMembers⟩
    rw [ReadsBack, MembersReadBack] at hBack
    rcases hBack with ⟨hValueBack, hMembersBack⟩
    rw [characters, List.cons_append, quotedCharacters_append]
    apply readValue_object hNames
    intro depth
    have hFirst := readMember_characters [] name
      (readValue_characters value hValue hValueBack depth
        (charactersOfMembers members ++ rest)
        (endsNumeral_members members rest))
    rw [nestingOfMembers]
    refine (congrArg (· >>= _) hFirst).trans ?_
    apply within_bind
    dsimp only
    rw [readMoreMembers_characters members hMembers hMembersBack
      depth _ _ rest (length_members_lt members rest)]
    exact within_map ((name, value) :: ·) _ _ _

private theorem readMoreItems_characters :
    (items : List Json) → DecodedItems items →
    ItemsReadBack convert items →
    ∀ (depth limit : Nat) (rest : List Char),
      items.length < limit →
      readMoreItems (readValue convert depth) limit
          (charactersOfItems items ++ rest) =
        within depth (nestingOfItems items) items rest
| [], _, _, depth, limit + 1, rest, hLimit =>
    (within_zero _ rest).symm
| item :: items, h, hBack, depth, limit + 1, rest, hLimit => by
    rw [DecodedItems] at h
    rcases h with ⟨hItem, hItems⟩
    rw [ItemsReadBack] at hBack
    rcases hBack with ⟨hItemBack, hItemsBack⟩
    rcases exists_characters_eq hItem with
      ⟨c, cs, hText, hBlank, hEnd⟩
    have hFirst := readValue_characters item hItem hItemBack depth
      (charactersOfItems items ++ rest)
      (endsNumeral_items items rest)
    rw [charactersOfItems, List.cons_append, List.append_assoc]
    rw [hText, List.cons_append] at hFirst ⊢
    rw [readMoreItems_comma limit hBlank hEnd, hFirst,
      nestingOfItems]
    apply within_bind
    dsimp only
    rw [readMoreItems_characters items hItems hItemsBack depth
      limit rest (Nat.lt_of_succ_lt_succ hLimit)]
    exact within_map (item :: ·) _ _ _

private theorem readMoreMembers_characters :
    (members : List (String × Json)) → DecodedMembers members →
    MembersReadBack convert members →
    ∀ (depth limit : Nat) (before : List String)
      (rest : List Char),
      members.length < limit →
      readMoreMembers anyName (readValue convert depth) limit
          before (charactersOfMembers members ++ rest) =
        within depth (nestingOfMembers members) members rest
| [], _, _, depth, limit + 1, before, rest, hLimit =>
    (within_zero _ rest).symm
| (name, value) :: members, h, hBack, depth, limit + 1, before,
    rest, hLimit => by
    rw [DecodedMembers] at h
    rcases h with ⟨hValue, hMembers⟩
    rw [MembersReadBack] at hBack
    rcases hBack with ⟨hValueBack, hMembersBack⟩
    rw [charactersOfMembers, List.cons_append,
      quotedCharacters_append, nestingOfMembers]
    have hFirst := readMember_characters before name
      (readValue_characters value hValue hValueBack depth
        (charactersOfMembers members ++ rest)
        (endsNumeral_members members rest))
    refine (congrArg (· >>= _) hFirst).trans ?_
    apply within_bind
    dsimp only
    rw [readMoreMembers_characters members hMembers hMembersBack
      depth limit _ rest (Nat.lt_of_succ_lt_succ hLimit)]
    exact within_map ((name, value) :: ·) _ _ _

end

/-
  A written document whose numbers are given back is read again,
  unless it is nested too deeply; nothing else can be wrong with
  it.
-/
theorem ofText_render
    {j : Json}
    (h : j.Decoded)
    (hBack : j.ReadsBack convert) :
    ofText convert j.render =
      if j.nesting ≤ nestingLimit then
        .ok j
      else
        .error .nestedTooDeep := by
  have hRead := readValue_characters j h hBack nestingLimit []
    endsNumeral_nil
  rw [List.append_nil] at hRead
  unfold ofText readWhole render
  rw [String.toList_ofList, hRead]
  unfold within
  by_cases hDepth : j.nesting ≤ nestingLimit
  · simp only [hDepth, if_true]
    rfl
  · simp only [hDepth, if_false]

end Json

end Registrar
