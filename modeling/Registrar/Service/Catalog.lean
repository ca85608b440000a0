import Registrar.Data.DataSet
import Registrar.Failure
import Registrar.Json.Conversion

/-
  This file defines catalogs of data sets.  A data set stands
  under its own id; it can be added once, looked up, and taken
  out again.

  Key definitions include:
    * `Catalog`
    * `Catalog.get?`
    * `Catalog.require`
    * `Catalog.add`
    * `Catalog.addText`
    * `Catalog.remove`
    * `Catalog.listings`
-/

------------------------------------------------------------
-- Catalogs
------------------------------------------------------------

namespace Registrar

/- Data sets under their ids. -/
structure Catalog where
  dataSets : Directory DataSet
deriving DecidableEq

namespace Catalog

/- The catalog that holds nothing. -/
def empty : Catalog :=
  ⟨[]⟩

/- The data set under an id. -/
def get?
    (catalog : Catalog)
    (id : String) : Option DataSet :=
  Directory.find? id catalog.dataSets

/- The data set under an id, which must be there. -/
def require
    (catalog : Catalog)
    (id : String) : Except Failure DataSet :=
  match catalog.get? id with
  | some dataSet => .ok dataSet
  | none => .error (.dataSetNotFound id)

/- The ids, ascending. -/
def ids (catalog : Catalog) : List String :=
  catalog.dataSets.names

/- The listings of all data sets, in the order of the ids. -/
def listings (catalog : Catalog) : List DataSet.Listing :=
  catalog.dataSets.map fun entry => entry.2.listing

/- An id must be one that a data set can have. -/
def checkId (id : String) : Except Failure Unit :=
  if IsDataSetId id then
    .ok ()
  else
    .error (.wrongId id)

/- The catalog with one more data set under a free id. -/
def add
    (catalog : Catalog)
    (id : String)
    (kind : Kind)
    (records : List Record) : Except Failure Catalog := do
  checkId id
  match catalog.get? id with
  | some _ => .error (.idTaken id)
  | none =>
      let dataSet : DataSet := ⟨id, kind, records⟩
      return ⟨Directory.insert id dataSet catalog.dataSets⟩

/- The catalog with the records that a JSON text lists. -/
def addText
    (catalog : Catalog)
    (id : String)
    (kind : Kind)
    (input : String) : Except Failure Catalog := do
  checkId id
  match Record.listOfText Json.Numeral.stepwise input with
  | .error e => .error (.undecodable e)
  | .ok records => catalog.add id kind records

/- The catalog without the data set under an id. -/
def remove
    (catalog : Catalog)
    (id : String) : Except Failure Catalog := do
  checkId id
  let _ ← catalog.require id
  return ⟨Directory.erase id catalog.dataSets⟩

end Catalog

end Registrar
