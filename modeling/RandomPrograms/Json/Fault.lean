import RandomPrograms.Text.Quoted
import RandomPrograms.Text.Truth

/-! What can be wrong with a JSON document, and how it is said. -/

namespace RandomPrograms.Json

/-- What was found where something else was wanted. -/
inductive Found
  | null
  | boolean (b : Bool)
  | integer (n : Int)
  /-- A number that is no integer of 64 bits, as it is shown. -/
  | floating (shown : String)
  | text (s : String)
  | list
  | object
deriving Repr, DecidableEq, Inhabited

def Found.describe : Found → String
  | .null => "null"
  | .boolean b => "boolean `" ++ Text.truth b ++ "`"
  | .integer n => "integer `" ++ n.repr ++ "`"
  | .floating shown => "floating point `" ++ shown ++ "`"
  | .text s => "string " ++ Text.quoted s
  | .list => "sequence"
  | .object => "map"

/-- The first thing wrong with a document. -/
inductive Fault
  | endOfValue
  | endOfList
  | endOfObject
  | endOfText
  | noValue
  | misspelt
  | keyNotText
  | noColon
  | noListComma
  | noObjectComma
  | trailingComma
  | trailingCharacters
  | invalidNumber
  | numberOutOfRange
  | controlCharacter
  | invalidEscape
  /-- The first half of a surrogate pair without an escape after it. -/
  | openPair
  /-- A half of a surrogate pair without its other half. -/
  | brokenPair
  | repeatedField (name : String)
  | wrongType (found : Found) (wanted : String)
  /-- An integer that the wanted type cannot hold. -/
  | wrongInteger (n : Int) (wanted : String)
  /-- A reason given in words. -/
  | other (reason : String)
deriving Repr, DecidableEq, Inhabited

def Fault.message : Fault → String
  | .endOfValue => "EOF while parsing a value"
  | .endOfList => "EOF while parsing a list"
  | .endOfObject => "EOF while parsing an object"
  | .endOfText => "EOF while parsing a string"
  | .noValue => "expected value"
  | .misspelt => "expected ident"
  | .keyNotText => "key must be a string"
  | .noColon => "expected `:`"
  | .noListComma => "expected `,` or `]`"
  | .noObjectComma => "expected `,` or `\x7d`"
  | .trailingComma => "trailing comma"
  | .trailingCharacters => "trailing characters"
  | .invalidNumber => "invalid number"
  | .numberOutOfRange => "number out of range"
  | .controlCharacter => "control character (\\u0000-\\u001F) found while parsing a string"
  | .invalidEscape => "invalid escape"
  | .openPair => "unexpected end of hex escape"
  | .brokenPair => "lone leading surrogate in hex escape"
  | .repeatedField name => "duplicate field `" ++ name ++ "`"
  | .wrongType found wanted => "invalid type: " ++ found.describe ++ ", expected " ++ wanted
  | .wrongInteger n wanted => "invalid value: integer `" ++ n.repr ++ "`, expected " ++ wanted
  | .other reason => reason

end RandomPrograms.Json
