import Registrar.Json.Typed

/-
  This file defines what data sets can hold: two kinds of
  records, the fields of each, and what values a field has.

  Key definitions include:
    * `Kind`
    * `Domain`
    * `Field`
    * `Field.label`
    * `Field.parse`
    * `Field.storageName`
    * `Field.domain`
    * `Field.kind`
    * `Kind.fields`
    * `Kind.ofText`

  Names and fields determine each other:
    * `Field.parse_eq_some_iff`
    * `Kind.mem_fields_iff`
-/

------------------------------------------------------------
-- Kinds And Domains
------------------------------------------------------------

namespace Registrar

/- What the records of a data set describe. -/
inductive Kind where
| sections
| rooms
deriving DecidableEq, Repr

/- What values a field has. -/
inductive Domain where
| numeric
| textual
deriving DecidableEq, Repr

/- The name of a kind. -/
def Kind.name : Kind → String
| .sections => "sections"
| .rooms => "rooms"

/- The name of a domain. -/
def Domain.name : Domain → String
| .numeric => "numeric"
| .textual => "textual"

/- The kind of a name. -/
def Kind.parse (name : String) : Except Json.ReadError Kind :=
  if name = Kind.name .sections then
    .ok .sections
  else if name = Kind.name .rooms then
    .ok .rooms
  else
    .error
      (.unknownVariant name (Kind.name .sections)
        (Kind.name .rooms))

/- The kind that a JSON text names. -/
def Kind.ofText
    (convert : Json.Conversion)
    (input : String) : Except Json.ReadError Kind :=
  Json.readWhole (Json.readVariant convert Kind.parse) input

------------------------------------------------------------
-- Fields
------------------------------------------------------------

/- A field that queries can name. -/
inductive Field where
| avg
| pass
| fail
| audit
| year
| lat
| lon
| seats
| dept
| id
| instructor
| title
| uuid
| fullname
| shortname
| number
| name
| address
| type
| furniture
| href
deriving DecidableEq, Repr

/- The fields of a kind, in the order they are listed. -/
def Kind.fields : Kind → List Field
| .sections =>
    [.avg, .pass, .fail, .audit, .year, .dept, .id,
      .instructor, .title, .uuid]
| .rooms =>
    [.lat, .lon, .seats, .fullname, .shortname, .number,
      .name, .address, .type, .furniture, .href]

namespace Field

/- The name of a field in queries. -/
def label : Field → String
| .avg => "avg"
| .pass => "pass"
| .fail => "fail"
| .audit => "audit"
| .year => "year"
| .lat => "lat"
| .lon => "lon"
| .seats => "seats"
| .dept => "dept"
| .id => "id"
| .instructor => "instructor"
| .title => "title"
| .uuid => "uuid"
| .fullname => "fullname"
| .shortname => "shortname"
| .number => "number"
| .name => "name"
| .address => "address"
| .type => "type"
| .furniture => "furniture"
| .href => "href"

/- All fields. -/
def all : List Field :=
  Kind.fields .sections ++ Kind.fields .rooms

/- The field of a name. -/
def parse (label : String) : Option Field :=
  all.find? (fun field => field.label = label)

/- The name under which records keep a field. -/
def storageName : Field → String
| .number => "room_number"
| .name => "room_name"
| field => field.label

/- What values a field has. -/
def domain : Field → Domain
| .avg | .pass | .fail | .audit | .year => .numeric
| .lat | .lon | .seats => .numeric
| _ => .textual

/- The kind of the records that have a field. -/
def kind : Field → Kind
| .avg | .pass | .fail | .audit | .year => .sections
| .dept | .id | .instructor | .title | .uuid => .sections
| _ => .rooms

end Field

------------------------------------------------------------
-- Names And Fields Determine Each Other
------------------------------------------------------------

/- A field's name is read as the field. -/
theorem Field.parse_label (field : Field) :
    parse field.label = some field := by
  cases field <;> decide

/- A text names a field exactly if it is the field's name. -/
theorem Field.parse_eq_some_iff
    {label : String}
    {field : Field} :
    parse label = some field ↔ field.label = label := by
  constructor
  · intro h
    have hFound := List.find?_some h
    simpa using hFound
  · intro h
    rw [← h]
    exact field.parse_label

/- A kind lists the fields of that kind. -/
theorem Kind.mem_fields_iff
    {kind : Kind}
    {field : Field} :
    field ∈ kind.fields ↔ field.kind = kind := by
  cases kind <;> cases field <;> decide

end Registrar
