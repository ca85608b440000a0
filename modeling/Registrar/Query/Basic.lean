import Registrar.Failure
import Registrar.Query.Clause

/-
  This file defines queries on one data set: a condition, a
  selection, and optionally a grouping.

  Key definitions include:
    * `Query`
    * `Query.keys`
    * `Query.toJson`
    * `Query.text`
    * `Query.ofJson`
    * `Query.ofText`
    * `Query.checkKind`
-/

------------------------------------------------------------
-- Queries
------------------------------------------------------------

namespace Registrar

/- The parts of a query, apart from its data set. -/
structure Request where
  condition : Condition
  selection : Selection
  grouping : Option Grouping
deriving DecidableEq

/- The keys that the parts of a query look at. -/
def Request.keys (request : Request) : List Key :=
  request.condition.keys ++
    (request.selection.keys ++
      match request.grouping with
      | none => []
      | some grouping => grouping.allKeys)

/- A query on one data set. -/
structure Query extends Request where
  dataSet : String
deriving DecidableEq

namespace Query

/- The keys that a query looks at, in the order of its parts. -/
def keys (query : Query) : List Key :=
  query.toRequest.keys

------------------------------------------------------------
-- Written Queries
------------------------------------------------------------

/- The document of a query. -/
def toJson (query : Query) : Json :=
  let condition := ("WHERE", query.condition.toJson)
  let selection := ("OPTIONS", query.selection.toJson)
  match query.grouping with
  | none => .object [selection, condition]
  | some grouping =>
      .object
        [selection, ("TRANSFORMATIONS", grouping.toJson),
          condition]

/- A query as it is written. -/
def text (query : Query) : String :=
  query.toJson.render

end Query

------------------------------------------------------------
-- Queries In Documents
------------------------------------------------------------

namespace Request

/- Whether a column can be shown; otherwise what is wrong. -/
def checkColumn
    (grouping : Option Grouping) :
    Column → Except Malformation Unit :=
  fun column =>
    match grouping, column with
    | some grouping, column =>
        if grouping.provides column then
          .ok ()
        else
          .error (.columnNotComputed column)
    | none, .applied name => .error (.columnNeedsGrouping name)
    | none, .stored _ => .ok ()

/- The grouping of a query, if there is one. -/
def groupingOf
    (members : Directory Json) :
    Except Malformation (Option Grouping) :=
  match Directory.find? "TRANSFORMATIONS" members with
  | none => .ok none
  | some document => do
      let grouping ← Grouping.ofJson document
      return some grouping

/-
  The parts that an object states.  Missing clauses are named
  before unknown ones, and the clauses are read in a fixed
  order; last the columns are checked against the grouping.
-/
def ofMembers
    (members : Directory Json) : Except Malformation Request :=
  match Directory.find? "WHERE" members,
      Directory.find? "OPTIONS" members with
  | some conditionDocument, some selectionDocument =>
      match members.unexpected?
          ["OPTIONS", "TRANSFORMATIONS", "WHERE"] with
      | some clause => .error (.unknownClause clause)
      | none => do
          let condition ← Condition.ofJson conditionDocument
          let selection ← Selection.ofJson selectionDocument
          let grouping ← groupingOf members
          selection.columns.forM (checkColumn grouping)
          return ⟨condition, selection, grouping⟩
  | _, _ => .error .clauseMissing

/- The parts that a document states. -/
def ofJson : Json → Except Malformation Request
| .object members => ofMembers members
| _ => .error .queryNotObject

/- The ids that keys name, ascending, each of them once. -/
def idsOf (keys : List Key) : List String :=
  (keys.map Key.dataSet).eraseDups.mergeSort

/- The one data set that the parts of a query name. -/
def dataSet
    (request : Request) : Except Failure String :=
  match idsOf request.keys with
  | [] => .error .noDataSet
  | [id] => .ok id
  | first :: second :: _ =>
      .error (.severalDataSets first second)

end Request

namespace Query

/- The query that a document states. -/
def ofJson (document : Json) : Except Failure Query :=
  match Request.ofJson document with
  | .error m => .error (.malformed m)
  | .ok request =>
      match request.dataSet with
      | .error failure => .error failure
      | .ok id => .ok { request with dataSet := id }

/- The query that a JSON text states. -/
def ofText
    (convert : Json.Conversion)
    (input : String) : Except Failure Query :=
  match Json.ofText convert input with
  | .error e => .error (.malformed (.unreadable e))
  | .ok document => ofJson document

------------------------------------------------------------
-- Kinds Of Data Sets
------------------------------------------------------------

/- A query suits a kind if all its keys are fields of it. -/
def checkKind
    (query : Query)
    (kind : Kind) : Except Failure Unit :=
  match query.keys.find?
      (fun key => key.field.kind ≠ kind) with
  | some key => .error (.wrongKind key kind)
  | none => .ok ()

end Query

end Registrar
