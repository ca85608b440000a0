import Registrar.Answer.Execution
import Registrar.Service.Catalog
import Registrar.Service.Settings

/-
  This file answers queries on the data sets of a catalog.  An
  answer with too many rows is refused as a whole.  How texts
  are ordered and what is tried for numbers whose digits fit no
  decimal are parameters.

  Key definitions include:
    * `DataSet.answerBy`
    * `Settings.limitRows`
    * `Engine`
    * `Engine.run`
    * `Engine.answerJson`
    * `Engine.answerText`
-/

------------------------------------------------------------
-- Answers From Data Sets
------------------------------------------------------------

namespace Registrar

/- The answer to a query that suits a data set's kind. -/
def DataSet.answerBy
    (collate : TextOrder)
    (retry : Decimal.Conversion)
    (dataSet : DataSet)
    (query : Query) : Except Failure (List Row) := do
  query.checkKind dataSet.kind
  query.answerBy collate retry dataSet.records

/- Rows, if there are not too many. -/
def Settings.limitRows
    (settings : Settings)
    (rows : List Row) : Except Failure (List Row) :=
  if settings.maxRows < rows.length then
    .error (.resultTooLarge rows.length settings.maxRows)
  else
    .ok rows

------------------------------------------------------------
-- Engines
------------------------------------------------------------

/- A catalog and the settings for answers from it. -/
structure Engine where
  catalog : Catalog
  settings : Settings
deriving DecidableEq

namespace Engine

variable (collate : TextOrder) (retry : Decimal.Conversion)

/- The answer to a query. -/
def run
    (engine : Engine)
    (query : Query) : Except Failure (List Row) := do
  let dataSet ← engine.catalog.require query.dataSet
  let rows ← dataSet.answerBy collate retry query
  engine.settings.limitRows rows

/- The answer to the query that a document states. -/
def answerJson
    (engine : Engine)
    (document : Json) : Except Failure (List Row) := do
  engine.run collate retry (← Query.ofJson document)

/- The answer to the query that a JSON text states. -/
def answerText
    (engine : Engine)
    (input : String) : Except Failure (List Row) := do
  let query ← Query.ofText Json.Numeral.stepwise input
  engine.run collate retry query

end Engine

end Registrar
