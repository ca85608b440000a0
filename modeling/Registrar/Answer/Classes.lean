import Registrar.Answer.Total
import Registrar.Failure
import Registrar.Data.Record

/-
  This file defines classes of records and what is computed for
  each class.  Two records are in one class if they have the
  same values for all keys of the grouping, or lack the same
  ones.

  Records are put in classes one after the other.  An index
  tells which class has the identities of a record; if none
  has, a class is opened behind the others.

  Key definitions include:
    * `identityIn`
    * `Classification.place`
    * `classes`
    * `AppliedRule.numbers`
    * `AppliedRule.evaluate`
    * `Summary`
    * `Grouping.summarize`
    * `Grouping.summaries`
-/

------------------------------------------------------------
-- Classes
------------------------------------------------------------

namespace Registrar

/- What a record has for each of several keys. -/
def identityIn
    (keys : List Key)
    (record : Record) : List (Option Identity) :=
  keys.map fun key =>
    (record.get? key.field).map Value.identity

/-
  Classes of records, and an index from what the members of a
  class share to the number of the class.
-/
structure Classification where
  index : List (List (Option Identity) × Nat)
  classes : List (List Record)
deriving DecidableEq

namespace Classification

/- No record has been put in a class. -/
def empty : Classification :=
  ⟨[], []⟩

/-
  One more record is put in its class; if it has none yet, one
  is opened for it.
-/
def place
    (keys : List Key)
    (state : Classification)
    (record : Record) : Classification :=
  let shared := identityIn keys record
  match state.index.lookup shared with
  | some number =>
      { state with
        classes :=
          state.classes.modify number
            (fun members => members ++ [record]) }
  | none =>
      { index := (shared, state.classes.length) :: state.index
        classes := state.classes ++ [[record]] }

end Classification

/-
  The classes of records, in the order of their first members;
  members keep their order.
-/
def classes
    (keys : List Key)
    (records : List Record) : List (List Record) :=
  (records.foldl (Classification.place keys)
    Classification.empty).classes

------------------------------------------------------------
-- Computed Values
------------------------------------------------------------

namespace AppliedRule

/- The number that a record has for a rule's field. -/
def numberOf
    (rule : AppliedRule)
    (record : Record) : Except Failure Binary64 :=
  match record.get? rule.key.field with
  | some (.number x) => .ok x
  | some (.text s) =>
      .error (.notNumeric rule.aggregate rule.key (.text s))
  | none => .error (.notNumeric rule.aggregate rule.key .missing)

/- The numbers of all members, in their order. -/
def numbers
    (rule : AppliedRule) :
    List Record → Except Failure (List Binary64)
| [] => .ok []
| first :: rest => do
    let x ← rule.numberOf first
    let xs ← rule.numbers rest
    return x :: xs

/- How many different values members have; a lack is one. -/
def countValues
    (rule : AppliedRule)
    (members : List Record) : Nat :=
  (members.map fun record =>
    (record.get? rule.key.field).map
      Value.identity).eraseDups.length

/- The extreme of numbers, of which there must be one. -/
def extreme
    (rule : AppliedRule)
    (pick : Binary64 → Binary64 → Binary64) :
    List Binary64 → Except Failure Binary64
| [] => .error (.emptyClass rule.aggregate)
| first :: rest => .ok (rest.foldl pick first)

/-
  The number that a rule computes for a class, where `retry` is
  the second attempt at a decimal of a number.
-/
def evaluate
    (retry : Decimal.Conversion)
    (rule : AppliedRule)
    (members : List Record) : Except Failure Binary64 :=
  if rule.aggregate.needsNumbers ∧
      rule.key.field.domain ≠ .numeric then
    .error
      (.notNumeric rule.aggregate rule.key .textualField)
  else
    match rule.aggregate with
    | .count => .ok (Binary64.ofNat (rule.countValues members))
    | .max => do
        let xs ← rule.numbers members
        rule.extreme Binary64.larger xs
    | .min => do
        let xs ← rule.numbers members
        rule.extreme Binary64.smaller xs
    | .sum => do
        let xs ← rule.numbers members
        return (Total.ofList retry xs).rounded
    | .avg => do
        let xs ← rule.numbers members
        let total := Total.ofList retry xs
        return (total.divideBy members.length).rounded

end AppliedRule

------------------------------------------------------------
-- Summaries
------------------------------------------------------------

/-
  What is known of a class: the values of the keys that its
  members share, and the numbers computed for it, by name.
-/
structure Summary where
  shared : List (Field × Option Value)
  applied : Directory Binary64
deriving DecidableEq

namespace Summary

/- The value of a key. -/
def get?
    (summary : Summary)
    (field : Field) : Option Value :=
  (summary.shared.lookup field).join

/- A computed number. -/
def applied?
    (summary : Summary)
    (name : String) : Option Binary64 :=
  Directory.find? name summary.applied

end Summary

namespace Grouping

/- What the first member of a class has for the keys. -/
def sharedValues
    (keys : List Key)
    (members : List Record) : List (Field × Option Value) :=
  keys.map fun key =>
    (key.field,
      members.head?.bind fun record => record.get? key.field)

/-
  The numbers that all rules compute for a class.  Of rules
  with one name, the last one stays.
-/
def applyRules
    (retry : Decimal.Conversion)
    (rules : List AppliedRule)
    (members : List Record) :
    Except Failure (Directory Binary64) := do
  let entries ← rules.mapM fun rule => do
    let x ← rule.evaluate retry members
    return (rule.name, x)
  return Directory.ofEntries entries

/- The summary of a class. -/
def summarize
    (retry : Decimal.Conversion)
    (grouping : Grouping)
    (members : List Record) : Except Failure Summary := do
  let applied ← applyRules retry grouping.rules members
  return ⟨sharedValues grouping.keys members, applied⟩

/- The summaries of all classes, in order. -/
def summaries
    (retry : Decimal.Conversion)
    (grouping : Grouping)
    (records : List Record) : Except Failure (List Summary) :=
  (classes grouping.keys records).mapM
    (grouping.summarize retry)

end Grouping

end Registrar
