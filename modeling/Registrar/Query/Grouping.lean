import Registrar.Query.Selection

/-
  This file defines groupings: the keys whose values records of
  one class share, and the values computed for each class.

  Key definitions include:
    * `Aggregate`
    * `AppliedRule`
    * `Grouping`
    * `Grouping.provides`
    * `Grouping.toJson`
    * `Grouping.ofJson`
-/

------------------------------------------------------------
-- Groupings
------------------------------------------------------------

namespace Registrar

/- A way to compute one number from the values of a class. -/
inductive Aggregate where
| max
| min
| avg
| count
| sum
deriving DecidableEq, Repr

namespace Aggregate

/- The word for an aggregate. -/
def word : Aggregate → String
| .max => "MAX"
| .min => "MIN"
| .avg => "AVG"
| .count => "COUNT"
| .sum => "SUM"

/- All aggregates. -/
def all : List Aggregate :=
  [.max, .min, .avg, .count, .sum]

/- The aggregate of a word. -/
def parse (word : String) : Option Aggregate :=
  all.find? (fun aggregate => aggregate.word = word)

/- Whether an aggregate is only defined for numbers. -/
def needsNumbers : Aggregate → Bool
| .count => false
| _ => true

/- An aggregate's word is read as the aggregate. -/
theorem parse_word (aggregate : Aggregate) :
    parse aggregate.word = some aggregate := by
  cases aggregate <;> decide

end Aggregate

/- A named value that is computed for each class. -/
structure AppliedRule where
  name : String
  aggregate : Aggregate
  key : Key
deriving DecidableEq, Repr

/- How records are put in classes, and what is computed. -/
structure Grouping where
  keys : List Key
  rules : List AppliedRule
deriving DecidableEq, Repr

namespace Grouping

/- Whether a class has a value for a column. -/
def provides (grouping : Grouping) : Column → Bool
| .stored key => decide (key ∈ grouping.keys)
| .applied name =>
    grouping.rules.any (fun rule => rule.name == name)

/- The keys a grouping looks at. -/
def allKeys (grouping : Grouping) : List Key :=
  grouping.keys ++ grouping.rules.map AppliedRule.key

end Grouping

------------------------------------------------------------
-- Written Groupings
------------------------------------------------------------

/- The document of a rule. -/
def AppliedRule.toJson (rule : AppliedRule) : Json :=
  Json.single rule.name
    (Json.single rule.aggregate.word (.text rule.key.text))

/- The document of a grouping. -/
def Grouping.toJson (grouping : Grouping) : Json :=
  .object
    [("APPLY", .list (grouping.rules.map AppliedRule.toJson)),
      ("GROUP", Json.ofTexts (grouping.keys.map Key.text))]

------------------------------------------------------------
-- Groupings In Documents
------------------------------------------------------------

namespace AppliedRule

/- What is computed: an aggregate of a key's values. -/
def ofBody
    (name : String) :
    Directory Json → Except Malformation AppliedRule
| [(word, target)] =>
    match Aggregate.parse word with
    | none => .error (.unknownToken word)
    | some aggregate =>
        match target.text? with
        | none => .error (.targetNotText target.typeName)
        | some input => do
            let key ← Key.ofText input
            return ⟨name, aggregate, key⟩
| members => .error (.ruleNotOneToken name members.length)

/- The rule of an object with one member. -/
def ofMembers :
    Directory Json → Except Malformation AppliedRule
| [(name, body)] =>
    if IsAppliedName name then
      match body.object? with
      | none => .error (.ruleNotObject name)
      | some members => ofBody name members
    else
      .error (.wrongAppliedName name)
| members => .error (.ruleNotOneName members.length)

/- The rule that a document states. -/
def ofJson : Json → Except Malformation AppliedRule
| .object members => ofMembers members
| _ => .error (.notObject "APPLYRULE")

/- Rules whose names are new and different from each other. -/
def ofItems
    (taken : List String) :
    List Json → Except Malformation (List AppliedRule)
| [] => .ok []
| item :: rest => do
    let rule ← ofJson item
    if rule.name ∈ taken then
      .error (.repeatedName rule.name)
    else
      let rules ← ofItems (rule.name :: taken) rest
      return rule :: rules

end AppliedRule

namespace Grouping

/- The key of a string with an underscore. -/
def keyOf (input : String) : Except Malformation Key :=
  if '_' ∈ input.toList then
    Key.ofText input
  else
    .error (.groupNotKey input)

/- The grouping of an object. -/
def ofMembers
    (members : Directory Json) :
    Except Malformation Grouping :=
  match members.unexpected? ["APPLY", "GROUP"] with
  | some clause => .error (.unknownTransformation clause)
  | none =>
      match Directory.find? "GROUP" members with
      | none => .error .groupMissing
      | some group => do
          let names ← group.someTexts "GROUP"
          let keys ← names.mapM keyOf
          match Directory.find? "APPLY" members with
          | none => .error .applyMissing
          | some apply =>
              match apply.list? with
              | none => .error (.notArray "APPLY")
              | some items => do
                  let rules ← AppliedRule.ofItems [] items
                  return ⟨keys, rules⟩

/- The grouping that a document states. -/
def ofJson : Json → Except Malformation Grouping
| .object members => ofMembers members
| _ => .error (.notObject "TRANSFORMATIONS")

end Grouping

end Registrar
