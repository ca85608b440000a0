import Registrar.Answer.Classes

/-
  This file defines rows of results, how a record or a class
  becomes a row, and the order of rows.

  A source without a value for a column, or with a value of the
  other domain, becomes no row.

  Key definitions include:
    * `Row`
    * `Source`
    * `Source.row?`
    * `Selection.sortingPlaces`
    * `Row.compareBy`
    * `Row.orderBy`
-/

------------------------------------------------------------
-- Rows
------------------------------------------------------------

namespace Registrar

/- Values under the names of columns, in the columns' order. -/
structure Row where
  cells : List (String × Value)
deriving DecidableEq

namespace Row

/- The names of the columns. -/
def names (row : Row) : List String :=
  row.cells.map Prod.fst

/- The values, in the order of the columns. -/
def values (row : Row) : List Value :=
  row.cells.map Prod.snd

/- The value under a name. -/
def get?
    (row : Row)
    (name : String) : Option Value :=
  row.cells.lookup name

/- The number of columns. -/
def size (row : Row) : Nat :=
  row.cells.length

/- The document of a row. -/
def toJson (row : Row) : Json :=
  .object
    (row.cells.map fun (name, value) => (name, value.toJson))

/- The document of several rows. -/
def listToJson (rows : List Row) : Json :=
  .list (rows.map toJson)

end Row

------------------------------------------------------------
-- Sources Of Rows
------------------------------------------------------------

/- What a row is made from. -/
inductive Source where
| record (record : Record)
| summary (summary : Summary)
deriving DecidableEq

namespace Source

/- The value of a field. -/
def get? : Source → Field → Option Value
| .record r, field => r.get? field
| .summary s, field => s.get? field

/- A computed value. -/
def applied? : Source → String → Option Value
| .record _, _ => none
| .summary s, name => (s.applied? name).map Value.number

/- The value of a column, if it is of the column's domain. -/
def value?
    (source : Source) :
    Column → Option Value
| .stored key =>
    (source.get? key.field).filter fun value =>
      value.domain = key.field.domain
| .applied name => source.applied? name

/- The cell of a column. -/
def cell?
    (source : Source)
    (column : Column) : Option (String × Value) :=
  (source.value? column).map fun value => (column.text, value)

/- The row of a source, if it has a value for each column. -/
def row?
    (source : Source)
    (columns : List Column) : Option Row :=
  (columns.mapM source.cell?).map Row.mk

end Source

------------------------------------------------------------
-- Order Of Rows
------------------------------------------------------------

/-
  The places of the columns that rows are ordered by.  A
  column that is not shown has no place.
-/
def Selection.sortingPlaces
    (selection : Selection) : List Nat :=
  selection.sortingColumns.filterMap fun column =>
    selection.columns.idxOf? column

/- An order, or the same order from its other end. -/
def Direction.orient : Direction → Ordering → Ordering
| .up, order => order
| .down, order => order.swap

namespace Row

variable (collate : TextOrder)

/- The order of two rows in one place. -/
def compareAt
    (place : Nat)
    (a b : Row) : Ordering :=
  match a.values[place]?, b.values[place]? with
  | some x, some y => x.compareBy collate y
  | _, _ => .eq

/- The first place in which two rows differ decides. -/
def comparePlaces : List Nat → Row → Row → Ordering
| [], _, _ => .eq
| place :: rest, a, b =>
    (compareAt collate place a b).then
      (comparePlaces rest a b)

/- The order of two rows in a direction. -/
def compareBy
    (direction : Direction)
    (places : List Nat)
    (a b : Row) : Ordering :=
  direction.orient (comparePlaces collate places a b)

/- Rows in order; rows that do not differ keep theirs. -/
def orderBy
    (direction : Direction)
    (places : List Nat)
    (rows : List Row) : List Row :=
  arrange (compareBy collate direction places) rows

end Row

end Registrar
