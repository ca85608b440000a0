import Registrar.Answer.Rows
import Registrar.Query.Basic

/-
  This file answers queries on records: records that meet the
  condition are taken on their own or in classes, become rows,
  and the rows are ordered.

  Key definitions include:
    * `Query.matched`
    * `Query.sources`
    * `Query.unordered`
    * `Query.answerBy`
-/

------------------------------------------------------------
-- Answers
------------------------------------------------------------

namespace Registrar

namespace Query

/- The records that meet the condition. -/
def matched
    (query : Query)
    (records : List Record) : List Record :=
  records.filter fun record => query.condition.holds record

/- What the rows are made from. -/
def sources
    (retry : Decimal.Conversion)
    (query : Query)
    (records : List Record) : Except Failure (List Source) :=
  match query.grouping with
  | none => .ok ((query.matched records).map Source.record)
  | some grouping =>
      match grouping.summaries retry (query.matched records) with
      | .ok summaries => .ok (summaries.map Source.summary)
      | .error failure => .error failure

/- The rows in the order of their sources. -/
def unordered
    (retry : Decimal.Conversion)
    (query : Query)
    (records : List Record) : Except Failure (List Row) :=
  match query.sources retry records with
  | .ok sources =>
      .ok (sources.filterMap fun source =>
        source.row? query.selection.columns)
  | .error failure => .error failure

/-
  Rows in the order that the query wants, where texts are
  ordered as `collate` says.
-/
def arrangeBy
    (collate : TextOrder)
    (query : Query)
    (rows : List Row) : List Row :=
  match query.selection.sorting with
  | none => rows
  | some sorting =>
      Row.orderBy collate sorting.direction
        query.selection.sortingPlaces rows

/-
  The rows that answer a query, with texts so ordered and with
  this second attempt at decimals.
-/
def answerBy
    (collate : TextOrder)
    (retry : Decimal.Conversion)
    (query : Query)
    (records : List Record) : Except Failure (List Row) :=
  match query.unordered retry records with
  | .ok rows => .ok (query.arrangeBy collate rows)
  | .error failure => .error failure

end Query

end Registrar
