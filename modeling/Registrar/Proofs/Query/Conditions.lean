import Registrar.Proofs.Json.Decoding
import Registrar.Proofs.Query.Names
import Registrar.Query.Clause

/-
  This file proves from which documents conditions are read.
  What a document states is given by rules, one for each form of
  a condition, so that properties of what has been read follow
  by induction on these rules.

  Key definitions include:
    * `Condition.Stated`
    * `Condition.AllStated`

  Main statements:
    * `Condition.ofMembers_eq_ok_iff`
    * `Condition.ofJson_eq_ok_iff`
-/

------------------------------------------------------------
-- Stated Conditions
------------------------------------------------------------

namespace Registrar

namespace Condition

mutual

/- The members of an object state a condition. -/
inductive Stated : List (String × Json) → Condition → Prop
| junction
    {connective : Connective}
    {items : List Json}
    {operands : List Condition}
    (hNe : items ≠ [])
    (hItems : AllStated items operands) :
    Stated [(connective.clause, .list items)]
      (.junction connective operands)
| comparison
    {relation : Relation}
    {key : Key}
    {document : Json}
    {operand : Binary64}
    (hKey : key.IsWellFormed)
    (hDomain : key.field.domain = .numeric)
    (hOperand : document.number? = some operand) :
    Stated
      [(relation.clause, .object [(key.text, document)])]
      (.comparison relation key operand)
| likeness
    {key : Key}
    {input : String}
    {pattern : Pattern}
    (hKey : key.IsWellFormed)
    (hDomain : key.field.domain = .textual)
    (hPattern : Pattern.parse input = some pattern) :
    Stated [("IS", .object [(key.text, .text input)])]
      (.likeness key pattern)
| negation
    {members : List (String × Json)}
    {operand : Condition}
    (hOperand : Stated members operand) :
    Stated [("NOT", .object members)] (.negation operand)

/- The items of an array state conditions, one by one. -/
inductive AllStated : List Json → List Condition → Prop
| nil : AllStated [] []
| cons
    {members : List (String × Json)}
    {operand : Condition}
    {items : List Json}
    {operands : List Condition}
    (hHead : Stated members operand)
    (hTail : AllStated items operands) :
    AllStated (.object members :: items) (operand :: operands)

end

------------------------------------------------------------
-- What Is Read Is Stated
------------------------------------------------------------

private theorem stated_of_ofComparison
    {relation : Relation}
    {members : Directory Json}
    {condition : Condition}
    (h : ofComparison relation members = .ok condition) :
    Stated [(relation.clause, .object members)] condition := by
  unfold ofComparison at h
  split at h
  · next input document =>
      split at h
      · cases h
      · next key hKey =>
          split at h
          · next operand hOperand =>
              cases h
              rcases Key.parseIn_eq_ok_iff.mp hKey with
                ⟨rfl, hWellFormed, hDomain⟩
              exact .comparison hWellFormed hDomain hOperand
          · cases h
  · cases h

private theorem stated_of_ofLikeness
    {members : Directory Json}
    {condition : Condition}
    (h : ofLikeness members = .ok condition) :
    Stated [("IS", .object members)] condition := by
  unfold ofLikeness at h
  split at h
  · next input document =>
      split at h
      · cases h
      · next key hKey =>
          split at h
          · cases h
          · next s hText =>
              split at h
              · next pattern hPattern =>
                  cases h
                  rcases Key.parseIn_eq_ok_iff.mp hKey with
                    ⟨rfl, hWellFormed, hDomain⟩
                  rw [Json.text?_eq_some_iff.mp hText]
                  exact .likeness hWellFormed hDomain hPattern
              · cases h
  · cases h

mutual

private theorem stated_of_ofClause
    {clause : Clause}
    {value : Json}
    {condition : Condition}
    (h : ofClause clause value = .ok condition) :
    Stated [(clause.word, value)] condition := by
  cases value with
  | list items =>
      cases clause with
      | junction connective =>
          simp only [ofClause] at h
          split at h
          · cases h
          · next hSome =>
              rcases bind_eq_ok_iff.mp h with
                ⟨operands, hOperands, hEq⟩
              cases hEq
              refine .junction ?_
                (allStated_of_ofOperands hOperands)
              rintro rfl
              exact hSome rfl
      | _ => simp [ofClause] at h
  | object members =>
      cases clause with
      | junction connective => simp [ofClause] at h
      | comparison relation =>
          simp only [ofClause] at h
          exact stated_of_ofComparison h
      | likeness =>
          simp only [ofClause] at h
          exact stated_of_ofLikeness h
      | negation =>
          simp only [ofClause] at h
          rcases bind_eq_ok_iff.mp h with
            ⟨operand, hOperand, hEq⟩
          cases hEq
          exact .negation (stated_of_ofMembers hOperand)
  | _ => cases clause <;> simp [ofClause] at h

/- Members from which a condition is read state it. -/
theorem stated_of_ofMembers
    {members : List (String × Json)}
    {condition : Condition}
    (h : ofMembers members = .ok condition) :
    Stated members condition := by
  match members with
  | [] => simp [ofMembers] at h
  | [(word, value)] =>
      simp only [ofMembers] at h
      split at h
      · next clause hClause =>
          have hWord := List.find?_some hClause
          rw [← of_decide_eq_true hWord]
          exact stated_of_ofClause h
      · cases h
  | _ :: _ :: _ => simp [ofMembers] at h

private theorem allStated_of_ofOperands
    {connective : Connective}
    {items : List Json}
    {operands : List Condition}
    (h : ofOperands connective items = .ok operands) :
    AllStated items operands := by
  match items with
  | [] =>
      simp only [ofOperands] at h
      cases h
      exact .nil
  | .object members :: rest =>
      simp only [ofOperands] at h
      rcases bind_eq_ok_iff.mp h with ⟨operand, hOperand, hRest⟩
      rcases bind_eq_ok_iff.mp hRest with ⟨others, hOthers, hEq⟩
      cases hEq
      exact .cons (stated_of_ofMembers hOperand)
        (allStated_of_ofOperands hOthers)
  | .null :: _ => simp [ofOperands] at h
  | .boolean _ :: _ => simp [ofOperands] at h
  | .integer _ :: _ => simp [ofOperands] at h
  | .float _ :: _ => simp [ofOperands] at h
  | .text _ :: _ => simp [ofOperands] at h
  | .list _ :: _ => simp [ofOperands] at h

end

------------------------------------------------------------
-- What Is Stated Is Read
------------------------------------------------------------

mutual

/- From members that state a condition it is read. -/
theorem ofMembers_of_stated
    {members : List (String × Json)}
    {condition : Condition}
    (h : Stated members condition) :
    ofMembers members = .ok condition := by
  cases h with
  | @junction connective items operands hNe hItems =>
      have hOperands := ofOperands_of_allStated hItems connective
      have hClause := Clause.parse_word (.junction connective)
      rw [Clause.word] at hClause
      have hSome : items.isEmpty = false :=
        List.isEmpty_eq_false_iff.mpr hNe
      simp [ofMembers, hClause, ofClause, hSome, hOperands]
  | @comparison relation key document operand hKey hDomain
      hOperand =>
      have hClause := Clause.parse_word (.comparison relation)
      rw [Clause.word] at hClause
      have hRead := Key.parseIn_eq_ok_iff.mpr
        ⟨rfl, hKey, hDomain⟩
      simp [ofMembers, hClause, ofClause, ofComparison, hRead,
        hOperand]
  | @likeness key input pattern hKey hDomain hPattern =>
      have hClause := Clause.parse_word .likeness
      rw [Clause.word] at hClause
      have hRead := Key.parseIn_eq_ok_iff.mpr
        ⟨rfl, hKey, hDomain⟩
      simp [ofMembers, hClause, ofClause, ofLikeness, hRead,
        Json.text?, hPattern]
  | negation hOperand =>
      have hClause := Clause.parse_word .negation
      rw [Clause.word] at hClause
      have hRead := ofMembers_of_stated hOperand
      simp [ofMembers, hClause, ofClause, hRead]

private theorem ofOperands_of_allStated
    {items : List Json}
    {operands : List Condition}
    (h : AllStated items operands)
    (connective : Connective) :
    ofOperands connective items = .ok operands := by
  cases h with
  | nil => simp [ofOperands]
  | cons hHead hTail =>
      have hFirst := ofMembers_of_stated hHead
      have hRest := ofOperands_of_allStated hTail connective
      simp [ofOperands, hFirst, hRest]

end

/- A condition is read from members that state it. -/
theorem ofMembers_eq_ok_iff
    {members : List (String × Json)}
    {condition : Condition} :
    ofMembers members = .ok condition ↔
      Stated members condition :=
  ⟨stated_of_ofMembers, ofMembers_of_stated⟩

/-
  The condition of a query is stated by an object; an empty
  one states that every record is wanted.
-/
theorem ofJson_eq_ok_iff
    {document : Json}
    {condition : Condition} :
    ofJson document = .ok condition ↔
      (document = .object [] ∧ condition = .always) ∨
        ∃ members, document = .object members ∧
          Stated members condition := by
  constructor
  · intro h
    unfold ofJson at h
    split at h
    · cases h
      exact .inl ⟨rfl, rfl⟩
    · exact .inr ⟨_, rfl, ofMembers_eq_ok_iff.mp h⟩
    · cases h
    · cases h
  · rintro (⟨rfl, rfl⟩ | ⟨members, rfl, h⟩)
    · rfl
    · have hRead := ofMembers_eq_ok_iff.mpr h
      cases h <;> exact hRead

end Condition

end Registrar
