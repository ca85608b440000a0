import Registrar.Data.Value

/-
  This file defines records: values under names, in ascending
  order of the names.

  A record may hold more than fields, and any value under a
  field's name; what a query takes from it is decided when the
  field is looked up.

  Key definitions include:
    * `Record`
    * `Record.find?`
    * `Record.get?`
    * `Record.ofMembers`
    * `Record.toJson`
    * `Record.ofText`
    * `Record.listOfText`
-/

------------------------------------------------------------
-- Records
------------------------------------------------------------

namespace Registrar

/- Values under names. -/
structure Record where
  entries : Directory Value
deriving DecidableEq

namespace Record

/- The value under a name. -/
def find?
    (record : Record)
    (name : String) : Option Value :=
  Directory.find? name record.entries

/- The value of a field. -/
def get?
    (record : Record)
    (field : Field) : Option Value :=
  record.find? field.storageName

/- The number of values. -/
def size (record : Record) : Nat :=
  record.entries.length

------------------------------------------------------------
-- Records In Documents
------------------------------------------------------------

/- The members that hold values; all others are left out. -/
def ofMembers (members : Directory Json) : Record :=
  ⟨members.filterMap fun (name, document) =>
    (Value.ofJson? document).map fun value => (name, value)⟩

/- The record that an object holds. -/
def ofJson? : Json → Option Record
| .object members => some (ofMembers members)
| _ => none

/- The document of a record. -/
def toJson (record : Record) : Json :=
  .object
    (record.entries.map fun (name, value) =>
      (name, value.toJson))

variable (convert : Json.Conversion)

/- A record, in which so many openings may still stand. -/
def read (depth : Nat) : Json.Reader Record := fun input => do
  let (members, rest) ←
    Json.readEntries convert .record Json.anyName
      (Json.readValue convert depth) input
  return (ofMembers (Directory.ofEntries members), rest)

/- The record that a JSON text holds. -/
def ofText (input : String) : Except Json.ReadError Record :=
  Json.readWhole (read convert (Json.nestingLimit - 1)) input

/- The records that a JSON text lists. -/
def listOfText
    (input : String) : Except Json.ReadError (List Record) :=
  Json.readWhole
    (Json.readElements convert .recordList
      (read convert (Json.nestingLimit - 2))) input

end Record

end Registrar
