/-
  This file defines text patterns: a text that may be open at
  its start and at its end.  An asterisk stands for an open
  end, so it can only come first or last.

  Key definitions include:
    * `Pattern`
    * `Pattern.parse`
    * `Pattern.text`
    * `Pattern.accepts`

  A pattern's text can be read again, and only the texts of
  patterns can be read:
    * `Pattern.text_of_parse`
-/

------------------------------------------------------------
-- Patterns
------------------------------------------------------------

namespace Registrar

/- A text that others are matched against. -/
structure Pattern where
  openStart : Bool
  openEnd : Bool
  body : List Char
deriving DecidableEq, Repr

namespace Pattern

/- How a pattern may differ from what it accepts. -/
inductive Shape where
| exact
| atStart
| atEnd
| anywhere
deriving DecidableEq, Repr

/- Where the body of a pattern is looked for. -/
def shape (p : Pattern) : Shape :=
  match p.openStart, p.openEnd with
  | false, false => .exact
  | false, true => .atStart
  | true, false => .atEnd
  | true, true => .anywhere

/- An asterisk, or nothing. -/
def asterisk (present : Bool) : List Char :=
  if present then ['*'] else []

/- The characters of a pattern as it is written. -/
def characters (p : Pattern) : List Char :=
  asterisk p.openStart ++ (p.body ++ asterisk p.openEnd)

/- A pattern as it is written. -/
def text (p : Pattern) : String :=
  String.ofList p.characters

------------------------------------------------------------
-- Reading Patterns
------------------------------------------------------------

/- Whether an asterisk comes last, and what is before it. -/
def splitEnd (cs : List Char) : Bool × List Char :=
  if cs.getLast? = some '*' then
    (true, cs.dropLast)
  else
    (false, cs)

/- Whether an asterisk comes first, and what is after it. -/
def splitStart : List Char → Bool × List Char
| '*' :: rest => (true, rest)
| cs => (false, cs)

/-
  The pattern that is written, if no asterisk is left over.
  A lone asterisk opens the start.
-/
def ofCharacters? (cs : List Char) : Option Pattern :=
  let (openStart, rest) := splitStart cs
  let (openEnd, body) := splitEnd rest
  if '*' ∈ body then
    none
  else
    some ⟨openStart, openEnd, body⟩

/- The pattern of a text. -/
def parse (input : String) : Option Pattern :=
  ofCharacters? input.toList

------------------------------------------------------------
-- Matching
------------------------------------------------------------

/- Whether some characters stand one after another in others. -/
def occursIn (body : List Char) : List Char → Bool
| [] => body.isEmpty
| c :: rest =>
    body.isPrefixOf (c :: rest) || occursIn body rest

/- Whether a pattern accepts a text. -/
def accepts
    (p : Pattern)
    (s : String) : Bool :=
  match p.shape with
  | .exact => s.toList == p.body
  | .atStart => p.body.isPrefixOf s.toList
  | .atEnd => p.body.isSuffixOf s.toList
  | .anywhere => occursIn p.body s.toList

------------------------------------------------------------
-- Written Patterns
------------------------------------------------------------

private theorem splitEnd_append
    {cs body : List Char}
    {openEnd : Bool}
    (h : splitEnd cs = (openEnd, body)) :
    body ++ asterisk openEnd = cs := by
  unfold splitEnd at h
  split at h
  · next hLast =>
      obtain ⟨rfl, rfl⟩ := Prod.mk.inj h
      obtain ⟨front, rfl⟩ := List.getLast?_eq_some_iff.mp hLast
      simp [asterisk]
  · obtain ⟨rfl, rfl⟩ := Prod.mk.inj h
    simp [asterisk]

private theorem splitStart_append
    {cs rest : List Char}
    {openStart : Bool}
    (h : splitStart cs = (openStart, rest)) :
    asterisk openStart ++ rest = cs := by
  unfold splitStart at h
  split at h
  · obtain ⟨rfl, rfl⟩ := Prod.mk.inj h
    simp [asterisk]
  · obtain ⟨rfl, rfl⟩ := Prod.mk.inj h
    simp [asterisk]

/- A pattern is written as it was read. -/
theorem text_of_parse
    {input : String}
    {p : Pattern}
    (h : parse input = some p) :
    p.text = input := by
  unfold parse ofCharacters? at h
  rcases hStart : splitStart input.toList with
    ⟨openStart, rest⟩
  rcases hEnd : splitEnd rest with ⟨openEnd, body⟩
  rw [hStart] at h
  dsimp only at h
  rw [hEnd] at h
  dsimp only at h
  split at h
  · cases h
  · cases h
    unfold text characters
    rw [splitEnd_append hEnd, splitStart_append hStart]
    exact String.ofList_toList

end Pattern

end Registrar
