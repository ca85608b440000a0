import Registrar.Json.Printer
import Registrar.Text.Quoted

/-
  This file defines what can be wrong with JSON text: the
  grammar is broken, or a well-formed value is not what is
  being decoded.

  Key definitions include:
    * `Json.Found`
    * `Json.Wanted`
    * `Json.ReadError`
    * `Json.ReadError.message`
-/

------------------------------------------------------------
-- What Was Found And What Was Wanted
------------------------------------------------------------

namespace Registrar

namespace Json

/- A value met where another type was wanted. -/
inductive Found where
| null
| boolean (b : Bool)
| integer (n : Int)
| float (x : Binary64)
| text (s : String)
| list
| object
deriving DecidableEq

/- The name of a value met. -/
def Found.name : Found → String
| .null => "null"
| .boolean true => "boolean `true`"
| .boolean false => "boolean `false`"
| .integer n =>
    "integer `" ++ String.ofList (Json.integer n).characters ++
      "`"
| .float x => "floating point `" ++ x.wireText ++ "`"
| .text s => "string " ++ Text.quoted s
| .list => "sequence"
| .object => "map"

/- What is decoded from text, other than a document. -/
inductive Wanted where
| recordList
| record
| settings
| rowCount
| nothing
deriving DecidableEq, Repr

/- The name of what is decoded. -/
def Wanted.name : Wanted → String
| .recordList => "a sequence"
| .record => "a map"
| .settings => "struct EngineConfig"
| .rowCount => "usize"
| .nothing => "unit"

------------------------------------------------------------
-- Errors
------------------------------------------------------------

/- The first problem met in a text, from left to right. -/
inductive ReadError where
| endInValue
| endInList
| endInObject
| endInText
| expectedColon
| expectedCommaOrBracket
| expectedCommaOrBrace
| expectedWord
| expectedValue
| invalidEscape
| invalidNumber
| numberOutOfRange
| loneSurrogate
| unpairedSurrogate
| controlCharacter
| nameNotText
| trailingCharacters
| trailingComma
| nestedTooDeep
| wrongType (found : Found) (wanted : Wanted)
| wrongInteger (n : Int) (wanted : Wanted)
| unknownName (name : String) (known : String)
| repeatedName (name : String)
| unknownVariant
    (name : String)
    (first second : String)
| notPrimitive
deriving DecidableEq

/- The text of an error. -/
def ReadError.message : ReadError → String
| .endInValue => "EOF while parsing a value"
| .endInList => "EOF while parsing a list"
| .endInObject => "EOF while parsing an object"
| .endInText => "EOF while parsing a string"
| .expectedColon => "expected `:`"
| .expectedCommaOrBracket => "expected `,` or `]`"
| .expectedCommaOrBrace => "expected `,` or `\x7d`"
| .expectedWord => "expected ident"
| .expectedValue => "expected value"
| .invalidEscape => "invalid escape"
| .invalidNumber => "invalid number"
| .numberOutOfRange => "number out of range"
| .loneSurrogate =>
    "lone leading surrogate in hex escape"
| .unpairedSurrogate => "unexpected end of hex escape"
| .controlCharacter =>
    "control character (\\u0000-\\u001F) " ++
      "found while parsing a string"
| .nameNotText => "key must be a string"
| .trailingCharacters => "trailing characters"
| .trailingComma => "trailing comma"
| .nestedTooDeep => "recursion limit exceeded"
| .wrongType found wanted =>
    "invalid type: " ++ found.name ++ ", expected " ++
      wanted.name
| .wrongInteger n wanted =>
    "invalid value: " ++ (Found.integer n).name ++
      ", expected " ++ wanted.name
| .unknownName name known =>
    "unknown field `" ++ name ++ "`, expected `" ++ known ++
      "`"
| .repeatedName name => "duplicate field `" ++ name ++ "`"
| .unknownVariant name first second =>
    "unknown variant `" ++ name ++ "`, expected `" ++ first ++
      "` or `" ++ second ++ "`"
| .notPrimitive =>
    "data did not match any variant of untagged enum Value"

end Json

end Registrar
