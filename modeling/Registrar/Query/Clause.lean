import Registrar.Query.Condition
import Registrar.Query.Malformation

/-
  This file reads conditions from documents.  A condition is an
  object with one member, whose name is the clause.  The first
  thing wrong is named, from the outside in and from left to
  right.

  Key definitions include:
    * `Clause`
    * `Clause.parse`
    * `Condition.ofMembers`
    * `Condition.ofJson`
-/

------------------------------------------------------------
-- Clauses
------------------------------------------------------------

namespace Registrar

/- What the name of a condition's member can call for. -/
inductive Clause where
| junction (connective : Connective)
| comparison (relation : Relation)
| likeness
| negation
deriving DecidableEq, Repr

namespace Clause

/- The word for a clause. -/
def word : Clause → String
| .junction connective => connective.clause
| .comparison relation => relation.clause
| .likeness => "IS"
| .negation => "NOT"

/- All clauses. -/
def all : List Clause :=
  [.junction .all, .junction .any, .comparison .below,
    .comparison .above, .comparison .equal, .likeness,
    .negation]

/- The clause of a word. -/
def parse (word : String) : Option Clause :=
  all.find? (fun clause => clause.word = word)

/- A clause's word is read as the clause. -/
theorem parse_word (clause : Clause) :
    parse clause.word = some clause := by
  cases clause with
  | junction connective => cases connective <;> decide
  | comparison relation => cases relation <;> decide
  | likeness => decide
  | negation => decide

end Clause

------------------------------------------------------------
-- Conditions In Documents
------------------------------------------------------------

namespace Condition

/- The comparison that one member states. -/
def ofComparison
    (relation : Relation) :
    Directory Json → Except Malformation Condition
| [(input, operand)] =>
    match Key.parseIn .numeric input with
    | .error e => .error (.wrongKey e)
    | .ok key =>
        match operand.number? with
        | some x => .ok (.comparison relation key x)
        | none =>
            .error
              (.operandNotNumber relation.clause
                operand.typeName)
| members =>
    .error (.notOneMember relation.clause members.length)

/- The likeness that one member states. -/
def ofLikeness :
    Directory Json → Except Malformation Condition
| [(input, operand)] =>
    match Key.parseIn .textual input with
    | .error e => .error (.wrongKey e)
    | .ok key =>
        match operand.text? with
        | none => .error (.operandNotText operand.typeName)
        | some s =>
            match Pattern.parse s with
            | some pattern => .ok (.likeness key pattern)
            | none => .error (.innerAsterisk s)
| members =>
    .error
      (.notOneMember Clause.likeness.word members.length)

mutual

/- The condition that a clause and its value state. -/
def ofClause (clause : Clause) :
    Json → Except Malformation Condition
| .list items =>
    match clause with
    | .junction connective =>
        if items.isEmpty then
          .error (.emptyArray clause.word)
        else do
          let operands ← ofOperands connective items
          return .junction connective operands
    | _ => .error (.notObject clause.word)
| .object members =>
    match clause with
    | .junction _ => .error (.notArray clause.word)
    | .comparison relation => ofComparison relation members
    | .likeness => ofLikeness members
    | .negation => do
        let operand ← ofMembers members
        return .negation operand
| _ =>
    match clause with
    | .junction _ => .error (.notArray clause.word)
    | _ => .error (.notObject clause.word)

/- The condition of an object with one member. -/
def ofMembers :
    List (String × Json) → Except Malformation Condition
| [(word, value)] =>
    match Clause.parse word with
    | some clause => ofClause clause value
    | none => .error (.unknownCondition word)
| members => .error (.notOneMember "filter" members.length)

/- The operands of a connective, all of them objects. -/
def ofOperands (connective : Connective) :
    List Json → Except Malformation (List Condition)
| [] => .ok []
| .object members :: rest => do
    let operand ← ofMembers members
    let operands ← ofOperands connective rest
    return operand :: operands
| _ :: _ =>
    .error (.notObject ("filter in " ++ connective.clause))

end

/-
  The condition of a query: an object with one member, or an
  empty one, which every record meets.
-/
def ofJson : Json → Except Malformation Condition
| .object [] => .ok .always
| .object [member] => ofMembers [member]
| .object members =>
    .error (.tooManyConditions members.length)
| _ => .error (.notObject "WHERE")

end Condition

end Registrar
