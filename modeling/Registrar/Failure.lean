import Registrar.Query.Grouping

/-
  This file defines why a request can fail, and how the failure
  is put into words.

  Key definitions include:
    * `NotNumeric`
    * `Failure`
    * `Failure.message`
    * `Failure.Category`
    * `Failure.category`
-/

------------------------------------------------------------
-- Failures
------------------------------------------------------------

namespace Registrar

/- What stands where a class needs a number. -/
inductive NotNumeric where
| textualField
| text (s : String)
| missing
deriving DecidableEq, Repr

/- The words for what stands there. -/
def NotNumeric.words : NotNumeric → String
| .textualField => "a textual field"
| .text s => "text " ++ Text.quoted s
| .missing => "a missing value"

/- Why settings cannot be loaded. -/
inductive LoadError where
| noFile
| notUtf8
deriving DecidableEq, Repr

/- The words for a failed load. -/
def LoadError.words : LoadError → String
| .noFile => "No such file or directory (os error 2)"
| .notUtf8 => "stream did not contain valid UTF-8"

/- Why a request failed. -/
inductive Failure where
| malformed (m : Malformation)
| noDataSet
| severalDataSets (first second : String)
| wrongKind (key : Key) (kind : Kind)
| notNumeric
    (aggregate : Aggregate)
    (key : Key)
    (found : NotNumeric)
| emptyClass (aggregate : Aggregate)
| dataSetNotFound (id : String)
| resultTooLarge (rows limit : Nat)
| wrongId (id : String)
| idTaken (id : String)
| notLoaded (error : LoadError)
| undecodable (error : Json.ReadError)
deriving DecidableEq

namespace Failure

/- The text of a failure. -/
def message : Failure → String
| .malformed m => "Malformed query: " ++ m.message
| .noDataSet =>
    "Dataset reference error: " ++
      "query does not reference any dataset"
| .severalDataSets first second =>
    "Dataset reference error: " ++
      "query references more than one dataset: " ++
      first ++ ", " ++ second
| .wrongKind key kind =>
    "Kind mismatch: key " ++ key.text ++
      " is not a field of a " ++ kind.name ++ " dataset"
| .notNumeric aggregate key found =>
    "Runtime type error: " ++ aggregate.word ++ " on " ++
      key.text ++ " found " ++ found.words
| .emptyClass aggregate =>
    "Runtime type error: " ++ aggregate.word ++
      " over an empty group"
| .dataSetNotFound id => "Dataset not found: " ++ id
| .resultTooLarge rows limit =>
    "Result too large: " ++ toString rows ++ " rows (limit " ++
      toString limit ++ ")"
| .wrongId id =>
    "Invalid dataset: invalid dataset id " ++ Text.quoted id
| .idTaken id =>
    "Invalid dataset: dataset " ++ Text.quoted id ++
      " already added"
| .notLoaded error => "I/O error: " ++ error.words
| .undecodable error =>
    "Serialization error: " ++ error.message

/- The kinds of failure that callers tell apart. -/
inductive Category where
| insight
| notFound
| tooLarge
deriving DecidableEq, Repr

/- The category of a failure. -/
def category : Failure → Category
| .dataSetNotFound _ => .notFound
| .resultTooLarge _ _ => .tooLarge
| _ => .insight

end Failure

end Registrar
