import Registrar.Data.Field
import Registrar.Text.Blank
import Registrar.Text.Quoted

/-
  This file defines keys: the id of a data set and a field,
  written with an underscore between them.  A column is a key
  or a name that a query itself gives to a computed value.

  Since ids, names and field labels hold no underscore, a
  written column tells what it is.

  Key definitions include:
    * `Key`
    * `Key.text`
    * `Key.parse`
    * `Key.parseIn`
    * `Column`
    * `Column.parse`
    * `IsDataSetId`
    * `IsAppliedName`
-/

------------------------------------------------------------
-- Ids And Names
------------------------------------------------------------

namespace Registrar

/- A text that can name a data set. -/
def IsDataSetId (id : String) : Prop :=
  '_' ∉ id.toList ∧ Text.isBlankText id = false

instance (id : String) : Decidable (IsDataSetId id) := by
  unfold IsDataSetId
  infer_instance

/- A text that can name a computed value. -/
def IsAppliedName (name : String) : Prop :=
  name ≠ "" ∧ '_' ∉ name.toList

instance (name : String) : Decidable (IsAppliedName name) := by
  unfold IsAppliedName
  infer_instance

------------------------------------------------------------
-- Keys
------------------------------------------------------------

/- A field of a data set. -/
structure Key where
  dataSet : String
  field : Field
deriving DecidableEq, Repr

/- What is wrong with a written key or column. -/
inductive KeyError where
| wrongForm (input : String)
| wrongId (input : String)
| unknownField (label : String) (input : String)
| wrongDomain (wanted : Domain) (input : String)
| emptyColumn
deriving DecidableEq, Repr

/- The text of an error. -/
def KeyError.message : KeyError → String
| .wrongForm input =>
    "invalid key format: " ++ Text.quoted input
| .wrongId input =>
    "invalid dataset id in key " ++ Text.quoted input
| .unknownField label input =>
    "unknown field " ++ Text.quoted label ++ " in key " ++
      Text.quoted input
| .wrongDomain wanted input =>
    "key " ++ Text.quoted input ++ " does not refer to a " ++
      wanted.name ++ " field"
| .emptyColumn => "empty column name"

namespace Key

/- A key as it is written. -/
def text (key : Key) : String :=
  key.dataSet ++ "_" ++ key.field.label

/-
  What stands before and after an underscore, if there is
  exactly one.
-/
def split? (input : String) : Option (String × String) :=
  match input.toList.dropWhile (· != '_') with
  | [] => none
  | _ :: rest =>
      if '_' ∈ rest then
        none
      else
        some
          (String.ofList
            (input.toList.takeWhile (· != '_')),
            String.ofList rest)

/- The key that a text writes. -/
def parse (input : String) : Except KeyError Key :=
  match split? input with
  | none => .error (.wrongForm input)
  | some (id, label) =>
      if IsDataSetId id then
        match Field.parse label with
        | some field => .ok ⟨id, field⟩
        | none => .error (.unknownField label input)
      else
        .error (.wrongId input)

/- The key of a field with values of one domain. -/
def parseIn
    (domain : Domain)
    (input : String) : Except KeyError Key :=
  match parse input with
  | .error e => .error e
  | .ok key =>
      if key.field.domain = domain then
        .ok key
      else
        .error (.wrongDomain domain input)

end Key

------------------------------------------------------------
-- Columns
------------------------------------------------------------

/- What a result can show: a field or a computed value. -/
inductive Column where
| stored (key : Key)
| applied (name : String)
deriving DecidableEq, Repr

namespace Column

/- A column as it is written. -/
def text : Column → String
| .stored key => key.text
| .applied name => name

/- The key, if the column is one. -/
def key? : Column → Option Key
| .stored key => some key
| .applied _ => none

/- The column that a text writes. -/
def parse (input : String) : Except KeyError Column :=
  if '_' ∈ input.toList then
    match Key.parse input with
    | .ok key => .ok (.stored key)
    | .error e => .error e
  else if input = "" then
    .error .emptyColumn
  else
    .ok (.applied input)

end Column

end Registrar
