import Registrar.Data.Record

/-
  This file defines data sets: records of one kind under an id.

  Key definitions include:
    * `DataSet`
    * `DataSet.Listing`
    * `DataSet.listing`
-/

------------------------------------------------------------
-- Data Sets
------------------------------------------------------------

namespace Registrar

/- Records of one kind under an id. -/
structure DataSet where
  id : String
  kind : Kind
  records : List Record
deriving DecidableEq

namespace DataSet

/- What is told of a data set without its records. -/
structure Listing where
  id : String
  kind : Kind
  size : Nat
deriving DecidableEq, Repr

/- The listing of a data set. -/
def listing (dataSet : DataSet) : Listing where
  id := dataSet.id
  kind := dataSet.kind
  size := dataSet.records.length

end DataSet

end Registrar
