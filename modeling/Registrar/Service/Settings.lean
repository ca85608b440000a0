import Registrar.Failure
import Registrar.Json.Conversion
import Registrar.Json.Typed

/-
  This file defines the settings of an engine and reads them
  from JSON text: an object with at most one member, or an array
  with at most one item.

  Key definitions include:
    * `Settings`
    * `Settings.read`
    * `Settings.ofText`
    * `Settings.load`
-/

------------------------------------------------------------
-- Settings
------------------------------------------------------------

namespace Registrar

/- What can be set. -/
structure Settings where
  maxRows : Nat
deriving DecidableEq, Repr

namespace Settings

/- What holds unless it is set otherwise. -/
def standard : Settings :=
  ⟨5000⟩

/- The settings with another limit. -/
def withMaxRows
    (_ : Settings)
    (rows : Nat) : Settings :=
  ⟨rows⟩

/- The name under which the limit is set. -/
def maxRowsName : String :=
  "max_result_rows"

------------------------------------------------------------
-- Settings In Documents
------------------------------------------------------------

/- The limit may be set once, and nothing else. -/
def nameRule : Json.NameRule := fun before name =>
  if name ≠ maxRowsName then
    some (.unknownName name maxRowsName)
  else if name ∈ before then
    some (.repeatedName name)
  else
    none

/- The end of an array that can hold no more items. -/
def readClose : Json.Reader Unit := fun input =>
  match Json.skipBlanks input with
  | [] => .error .endInList
  | ']' :: rest => .ok ((), rest)
  | ',' :: rest =>
      match Json.skipBlanks rest with
      | ']' :: _ => .error .trailingComma
      | _ => .error .trailingCharacters
  | _ => .error .trailingCharacters

/- The rest of an array of settings, after its bracket. -/
def readArray : Json.Reader Settings := fun input =>
  match Json.skipBlanks input with
  | [] => .error .endInList
  | ']' :: rest => .ok (standard, rest)
  | next => do
      let (rows, rest) ← Json.readCount Json.Numeral.stepwise next
      let ((), rest) ← readClose rest
      return (⟨rows⟩, rest)

/- Settings, as an array or as an object. -/
def read : Json.Reader Settings := fun input =>
  match Json.skipBlanks input with
  | '[' :: rest => readArray rest
  | rest => do
      let (members, rest) ←
        Json.readEntries Json.Numeral.stepwise .settings nameRule
          (Json.readCount Json.Numeral.stepwise) rest
      match members with
      | [] => return (standard, rest)
      | (_, rows) :: _ => return (⟨rows⟩, rest)

/- The settings that a JSON text states. -/
def ofText (input : String) : Except Failure Settings :=
  match Json.readWhole read input with
  | .ok settings => .ok settings
  | .error e => .error (.undecodable e)

/- The settings in the bytes of a file, if there is one. -/
def load : Option ByteArray → Except Failure Settings
| none => .error (.notLoaded .noFile)
| some bytes =>
    match String.fromUTF8? bytes with
    | none => .error (.notLoaded .notUtf8)
    | some input => ofText input

end Settings

end Registrar
