import Registrar.Data.Record
import Registrar.Query.Key
import Registrar.Query.Pattern

/-
  This file defines conditions on records: what they are, when
  a record meets them, the keys they look at, and how they are
  written.

  A condition on a field that a record lacks, or holds with a
  value of the other domain, is not met.

  Key definitions include:
    * `Connective`
    * `Relation`
    * `Condition`
    * `Condition.keys`
    * `Condition.holds`
    * `Condition.toJson`
-/

------------------------------------------------------------
-- Connectives And Relations
------------------------------------------------------------

namespace Registrar

/- How many of several conditions must be met. -/
inductive Connective where
| all
| any
deriving DecidableEq, Repr

/- The word for a connective. -/
def Connective.clause : Connective → String
| .all => "AND"
| .any => "OR"

/- How a number lies to another. -/
inductive Relation where
| below
| above
| equal
deriving DecidableEq, Repr

namespace Relation

/- The word for a relation. -/
def clause : Relation → String
| .below => "LT"
| .above => "GT"
| .equal => "EQ"

/- Whether two numbers stand in a relation. -/
def relates : Relation → Binary64 → Binary64 → Bool
| .below, x, y => x.isBelow y
| .above, x, y => y.isBelow x
| .equal, x, y => x.isSame y

end Relation

------------------------------------------------------------
-- Conditions
------------------------------------------------------------

/- A condition on records. -/
inductive Condition where
| always
| junction
    (connective : Connective)
    (operands : List Condition)
| comparison
    (relation : Relation)
    (key : Key)
    (operand : Binary64)
| likeness (key : Key) (pattern : Pattern)
| negation (operand : Condition)

namespace Condition

instance : Inhabited Condition :=
  ⟨.always⟩

mutual

/- The keys a condition looks at, from left to right. -/
def keys : Condition → List Key
| .always => []
| .junction _ operands => keysOfAll operands
| .comparison _ key _ => [key]
| .likeness key _ => [key]
| .negation operand => operand.keys

/- The keys that several conditions look at. -/
def keysOfAll : List Condition → List Key
| [] => []
| first :: rest => first.keys ++ keysOfAll rest

end

------------------------------------------------------------
-- Meeting Conditions
------------------------------------------------------------

/- Whether the number of a field lies as wanted. -/
def comparesTo
    (record : Record)
    (relation : Relation)
    (field : Field)
    (operand : Binary64) : Bool :=
  match record.get? field with
  | some (.number x) => relation.relates x operand
  | _ => false

/- Whether the text of a field is accepted. -/
def isLike
    (record : Record)
    (field : Field)
    (pattern : Pattern) : Bool :=
  match record.get? field with
  | some (.text s) => pattern.accepts s
  | _ => false

mutual

/- Whether a record meets a condition. -/
def holds (record : Record) : Condition → Bool
| .always => true
| .junction .all operands => allHold record operands
| .junction .any operands => anyHolds record operands
| .comparison relation key operand =>
    comparesTo record relation key.field operand
| .likeness key pattern => isLike record key.field pattern
| .negation operand => !holds record operand

/- Whether a record meets all of several conditions. -/
def allHold (record : Record) : List Condition → Bool
| [] => true
| first :: rest => holds record first && allHold record rest

/- Whether a record meets one of several conditions. -/
def anyHolds (record : Record) : List Condition → Bool
| [] => false
| first :: rest => holds record first || anyHolds record rest

end

------------------------------------------------------------
-- Written Conditions
------------------------------------------------------------

mutual

/- The document of a condition. -/
def toJson : Condition → Json
| .always => .object []
| .junction connective operands =>
    Json.single connective.clause
      (.list (toJsonOfAll operands))
| .comparison relation key operand =>
    Json.single relation.clause
      (Json.single key.text (Json.ofBinary64 operand))
| .likeness key pattern =>
    Json.single "IS" (Json.single key.text (.text pattern.text))
| .negation operand => Json.single "NOT" operand.toJson

/- The documents of several conditions. -/
def toJsonOfAll : List Condition → List Json
| [] => []
| first :: rest => first.toJson :: toJsonOfAll rest

end

------------------------------------------------------------
-- Equality
------------------------------------------------------------

mutual

/- Two conditions are equal, or differ. -/
def decideEq : (c d : Condition) → Decidable (c = d)
| .always, d =>
    match d with
    | .always => isTrue rfl
    | .junction _ _ => isFalse nofun
    | .comparison _ _ _ => isFalse nofun
    | .likeness _ _ => isFalse nofun
    | .negation _ => isFalse nofun
| .junction connective operands, d =>
    match d with
    | .junction other others =>
        match decEq connective other,
            decideEqAll operands others with
        | isTrue h, isTrue h' => isTrue (by rw [h, h'])
        | isFalse h, _ =>
            isFalse fun e => h (Condition.junction.inj e).1
        | _, isFalse h =>
            isFalse fun e => h (Condition.junction.inj e).2
    | .always => isFalse nofun
    | .comparison _ _ _ => isFalse nofun
    | .likeness _ _ => isFalse nofun
    | .negation _ => isFalse nofun
| .comparison relation key operand, d =>
    match d with
    | .comparison relation' key' operand' =>
        decidable_of_iff
          (relation = relation' ∧ key = key' ∧
            operand = operand')
          (by simp)
    | .always => isFalse nofun
    | .junction _ _ => isFalse nofun
    | .likeness _ _ => isFalse nofun
    | .negation _ => isFalse nofun
| .likeness key pattern, d =>
    match d with
    | .likeness key' pattern' =>
        decidable_of_iff
          (key = key' ∧ pattern = pattern')
          (by simp)
    | .always => isFalse nofun
    | .junction _ _ => isFalse nofun
    | .comparison _ _ _ => isFalse nofun
    | .negation _ => isFalse nofun
| .negation operand, d =>
    match d with
    | .negation other =>
        match decideEq operand other with
        | isTrue h => isTrue (by rw [h])
        | isFalse h =>
            isFalse fun e => h (Condition.negation.inj e)
    | .always => isFalse nofun
    | .junction _ _ => isFalse nofun
    | .comparison _ _ _ => isFalse nofun
    | .likeness _ _ => isFalse nofun

/- Two lists of conditions are equal, or differ. -/
def decideEqAll : (cs ds : List Condition) → Decidable (cs = ds)
| [], [] => isTrue rfl
| [], _ :: _ => isFalse nofun
| _ :: _, [] => isFalse nofun
| c :: cs, d :: ds =>
    match decideEq c d, decideEqAll cs ds with
    | isTrue h, isTrue h' => isTrue (by rw [h, h'])
    | isFalse h, _ =>
        isFalse fun e => h (List.cons.inj e).1
    | _, isFalse h =>
        isFalse fun e => h (List.cons.inj e).2

end

instance : DecidableEq Condition :=
  decideEq

end Condition

end Registrar
