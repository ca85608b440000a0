import Registrar.Query.Malformation

/-
  This file defines selections: the columns that a result
  shows, and how its rows are ordered.  Rows are ordered by
  shown columns only.

  Key definitions include:
    * `Direction`
    * `Sorting`
    * `Selection`
    * `Selection.toJson`
    * `Selection.ofJson`
-/

------------------------------------------------------------
-- Selections
------------------------------------------------------------

namespace Registrar

/- Which end of an order comes first. -/
inductive Direction where
| up
| down
deriving DecidableEq, Repr

/- The word for a direction. -/
def Direction.word : Direction → String
| .up => "UP"
| .down => "DOWN"

/- How rows are ordered: by one column, or by several. -/
inductive Sorting where
| single (column : Column)
| several
    (direction : Direction)
    (columns : List Column)
deriving DecidableEq, Repr

namespace Sorting

/- The columns that rows are ordered by, the first one first. -/
def columns : Sorting → List Column
| .single column => [column]
| .several _ columns => columns

/- The direction; a single column goes up. -/
def direction : Sorting → Direction
| .single _ => .up
| .several direction _ => direction

end Sorting

/- What a result shows and in which order. -/
structure Selection where
  columns : List Column
  sorting : Option Sorting
deriving DecidableEq, Repr

namespace Selection

/- The columns that rows are ordered by, if they are ordered. -/
def sortingColumns (selection : Selection) : List Column :=
  match selection.sorting with
  | none => []
  | some sorting => sorting.columns

/- The keys a selection looks at. -/
def keys (selection : Selection) : List Key :=
  selection.columns.filterMap Column.key? ++
    selection.sortingColumns.filterMap Column.key?

end Selection

------------------------------------------------------------
-- Written Selections
------------------------------------------------------------

/- The document of several columns. -/
def Column.listToJson (columns : List Column) : Json :=
  Json.ofTexts (columns.map Column.text)

/- The document of a sorting. -/
def Sorting.toJson : Sorting → Json
| .single column => .text column.text
| .several direction columns =>
    .object
      [("dir", .text direction.word),
        ("keys", Column.listToJson columns)]

/- The document of a selection. -/
def Selection.toJson (selection : Selection) : Json :=
  let columns :=
    ("COLUMNS", Column.listToJson selection.columns)
  match selection.sorting with
  | none => .object [columns]
  | some sorting => .object [columns, ("ORDER", sorting.toJson)]

------------------------------------------------------------
-- Parts Of Documents
------------------------------------------------------------

/- The strings of an array that holds nothing else. -/
def Json.textEntries
    (part : String) :
    List Json → Except Malformation (List String)
| [] => .ok []
| entry :: rest =>
    match entry.text? with
    | none => .error (.entryNotText part entry.typeName)
    | some s => do
        let others ← textEntries part rest
        return s :: others

/- The strings of a document that is an array of strings. -/
def Json.texts
    (part : String)
    (document : Json) : Except Malformation (List String) :=
  match document.list? with
  | none => .error (.notArray part)
  | some items => textEntries part items

/- The strings of an array that is not empty. -/
def Json.someTexts
    (part : String)
    (document : Json) : Except Malformation (List String) := do
  let strings ← document.texts part
  if strings.isEmpty then
    .error (.emptyArray part)
  else
    return strings

/- The column of a string. -/
def Column.ofText
    (input : String) : Except Malformation Column :=
  match Column.parse input with
  | .ok column => .ok column
  | .error e => .error (.wrongKey e)

/- The key of a string. -/
def Key.ofText (input : String) : Except Malformation Key :=
  match Key.parse input with
  | .ok key => .ok key
  | .error e => .error (.wrongKey e)

------------------------------------------------------------
-- Selections In Documents
------------------------------------------------------------

namespace Sorting

/- A column to order by, which must be shown. -/
def shownColumn
    (shown : List String)
    (name : String) : Except Malformation Column :=
  if name ∈ shown then
    Column.ofText name
  else
    .error (.orderNotShown name)

/- The direction of a document. -/
def directionOf (members : Directory Json) : Option Direction :=
  match (Directory.find? "dir" members).bind Json.text? with
  | some word =>
      if word = Direction.up.word then
        some .up
      else if word = Direction.down.word then
        some .down
      else
        none
  | none => none

/- The sorting of an object with a direction and columns. -/
def ofMembers
    (shown : List String)
    (members : Directory Json) : Except Malformation Sorting :=
  match members.unexpected? ["dir", "keys"] with
  | some clause => .error (.unknownOrderClause clause)
  | none =>
      match directionOf members with
      | none => .error .unknownDirection
      | some direction =>
          match Directory.find? "keys" members with
          | none => .error .orderKeysMissing
          | some document => do
              let names ← document.someTexts "ORDER keys"
              let columns ← names.mapM (shownColumn shown)
              return .several direction columns

/- The sorting that a document states. -/
def ofJson
    (shown : List String) :
    Json → Except Malformation Sorting
| .text name => do
    let column ← shownColumn shown name
    return .single column
| .object members =>
    if members.length = 2 then
      ofMembers shown members
    else
      .error .wrongOrder
| _ => .error .wrongOrder

end Sorting

namespace Selection

/- The sorting of a selection, if there is one. -/
def sortingOf
    (shown : List String)
    (members : Directory Json) :
    Except Malformation (Option Sorting) :=
  match Directory.find? "ORDER" members with
  | none => .ok none
  | some document => do
      let sorting ← Sorting.ofJson shown document
      return some sorting

/-
  The selection of an object.  A column named again is shown
  once, where it was named first.
-/
def ofMembers
    (members : Directory Json) :
    Except Malformation Selection :=
  match members.unexpected? ["COLUMNS", "ORDER"] with
  | some clause => .error (.unknownOption clause)
  | none =>
      match Directory.find? "COLUMNS" members with
      | none => .error .columnsMissing
      | some document => do
          let shown ← document.someTexts "COLUMNS"
          let columns ← shown.eraseDups.mapM Column.ofText
          let sorting ← sortingOf shown members
          return ⟨columns, sorting⟩

/- The selection that a document states. -/
def ofJson : Json → Except Malformation Selection
| .object members => ofMembers members
| _ => .error (.notObject "OPTIONS")

end Selection

end Registrar
