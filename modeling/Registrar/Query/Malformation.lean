import Registrar.Json.ReadError
import Registrar.Query.Key

/-
  This file defines what can be wrong with a query document.

  Key definitions include:
    * `Malformation`
    * `Malformation.message`
-/

------------------------------------------------------------
-- Malformations
------------------------------------------------------------

namespace Registrar

/-
  The first thing wrong with a query document.  The part of the
  document that is wrong is given by its clause.
-/
inductive Malformation where
| unreadable (error : Json.ReadError)
| queryNotObject
| clauseMissing
| unknownClause (clause : String)
| notObject (part : String)
| notArray (part : String)
| emptyArray (part : String)
| entryNotText (part : String) (found : String)
| tooManyConditions (count : Nat)
| notOneMember (part : String) (count : Nat)
| unknownCondition (clause : String)
| operandNotNumber (clause : String) (found : String)
| operandNotText (found : String)
| innerAsterisk (input : String)
| wrongKey (error : KeyError)
| unknownOption (clause : String)
| columnsMissing
| wrongOrder
| unknownOrderClause (clause : String)
| unknownDirection
| orderKeysMissing
| orderNotShown (column : String)
| unknownTransformation (clause : String)
| groupMissing
| applyMissing
| groupNotKey (input : String)
| ruleNotOneName (count : Nat)
| wrongAppliedName (name : String)
| ruleNotObject (name : String)
| ruleNotOneToken (name : String) (count : Nat)
| unknownToken (token : String)
| targetNotText (found : String)
| repeatedName (name : String)
| columnNotComputed (column : Column)
| columnNeedsGrouping (name : String)
deriving DecidableEq

/- The text of a malformation. -/
def Malformation.message : Malformation → String
| .unreadable error => "invalid JSON: " ++ error.message
| .queryNotObject => "query must be a JSON object"
| .clauseMissing => "missing WHERE or OPTIONS"
| .unknownClause clause =>
    "unexpected clause in query: " ++ clause
| .notObject part => part ++ " must be an object"
| .notArray part => part ++ " must be an array"
| .emptyArray part => part ++ " must be a non-empty array"
| .entryNotText part found =>
    part ++ " entries must be strings, got " ++ found
| .tooManyConditions count =>
    "WHERE should only have 1 key, has " ++ toString count
| .notOneMember part count =>
    part ++ " must have exactly 1 key, has " ++ toString count
| .unknownCondition clause => "invalid filter key: " ++ clause
| .operandNotNumber clause found =>
    clause ++ " expects a number, got " ++ found
| .operandNotText found => "IS expects a string, got " ++ found
| .innerAsterisk input =>
    "invalid input string " ++ Text.quoted input ++
      ": asterisk (*) can only be the first or last character"
| .wrongKey error => error.message
| .unknownOption clause =>
    "invalid clause in OPTIONS: " ++ clause
| .columnsMissing => "OPTIONS missing COLUMNS"
| .wrongOrder => "invalid ORDER format"
| .unknownOrderClause clause =>
    "invalid ORDER clause: " ++ clause
| .unknownDirection => "invalid ORDER direction"
| .orderKeysMissing => "ORDER missing keys"
| .orderNotShown column =>
    "ORDER key " ++ Text.quoted column ++ " must be in COLUMNS"
| .unknownTransformation clause =>
    "unexpected key in TRANSFORMATIONS: " ++ clause
| .groupMissing => "TRANSFORMATIONS missing GROUP"
| .applyMissing => "TRANSFORMATIONS missing APPLY"
| .groupNotKey input =>
    "GROUP keys must be dataset keys, got " ++
      Text.quoted input
| .ruleNotOneName count =>
    "APPLYRULE must have 1 key, has " ++ toString count
| .wrongAppliedName name =>
    "invalid applykey: " ++ Text.quoted name
| .ruleNotObject name =>
    "APPLYRULE " ++ name ++ " must map to an object"
| .ruleNotOneToken name count =>
    "APPLYRULE " ++ name ++ " must have 1 token, has " ++
      toString count
| .unknownToken token => "invalid APPLYTOKEN: " ++ token
| .targetNotText found =>
    "APPLY target must be a key string, got " ++ found
| .repeatedName name =>
    "duplicate applykey in APPLY: " ++ name
| .columnNotComputed column =>
    "COLUMNS key " ++ column.text ++
      " must be a GROUP key or an APPLY name"
| .columnNeedsGrouping name =>
    "COLUMNS key " ++ name ++ " requires TRANSFORMATIONS"

end Registrar
