import LightShow.Json.Printer
import LightShow.Text.Quoted

/-! What can be wrong with a JSON text, or with a value read from one, and how it is said. -/

namespace LightShow

namespace Json

/-- What stood where something else was expected. -/
inductive Found where
  | null
  | bool (value : Bool)
  | number (value : Number)
  | string (value : String)
  | sequence
  | map

def found : Json → Found
  | .null => .null
  | .bool value => .bool value
  | .number value => .number value
  | .string value => .string value
  | .array _ => .sequence
  | .object _ => .map

def Found.text : Found → String
  | .null => "null"
  | .bool value => s!"boolean `{value}`"
  | .number value =>
      let digits := String.ofList (numberChars value)
      match value with
      | .natural _ | .negative _ => s!"integer `{digits}`"
      | .double _ | .single _ => s!"floating point `{digits}`"
  | .string value => s!"string {Quoted.text value}"
  | .sequence => "sequence"
  | .map => "map"

inductive Fault where
  | endOfValue
  | endOfString
  | endOfList
  | endOfObject
  | expectedValue
  | expectedIdent
  | expectedListComma
  | expectedObjectComma
  | expectedColon
  | keyNotString
  | trailingComma
  | trailingCharacters
  | invalidNumber
  | numberRange
  | invalidEscape
  | invalidCodePoint
  | loneSurrogate
  | unfinishedPair
  | controlCharacter
  | tooDeep
  | missingField (name : String)
  | duplicateField (name : String)
  | invalidLength (count : Nat) (expected : String)
  | invalidType (found : Found) (expected : String)
  | invalidValue (found : Found) (expected : String)
  | unknownVariant (name : String) (known : List String)

/-- The names that would have been right. -/
def alternatives (known : List String) : String :=
  match known.map fun name => s!"`{name}`" with
  | [only] => only
  | [first, second] => s!"{first} or {second}"
  | names => "one of " ++ String.intercalate ", " names

def Fault.message : Fault → String
  | .endOfValue => "EOF while parsing a value"
  | .endOfString => "EOF while parsing a string"
  | .endOfList => "EOF while parsing a list"
  | .endOfObject => "EOF while parsing an object"
  | .expectedValue => "expected value"
  | .expectedIdent => "expected ident"
  | .expectedListComma => "expected `,` or `]`"
  | .expectedObjectComma => "expected `,` or `\x7d`"
  | .expectedColon => "expected `:`"
  | .keyNotString => "key must be a string"
  | .trailingComma => "trailing comma"
  | .trailingCharacters => "trailing characters"
  | .invalidNumber => "invalid number"
  | .numberRange => "number out of range"
  | .invalidEscape => "invalid escape"
  | .invalidCodePoint => "invalid unicode code point"
  | .loneSurrogate => "lone leading surrogate in hex escape"
  | .unfinishedPair => "unexpected end of hex escape"
  | .controlCharacter => "control character (\\u0000-\\u001F) found while parsing a string"
  | .tooDeep => "recursion limit exceeded"
  | .missingField name => s!"missing field `{name}`"
  | .duplicateField name => s!"duplicate field `{name}`"
  | .invalidLength count expected => s!"invalid length {count}, expected {expected}"
  | .invalidType found expected => s!"invalid type: {found.text}, expected {expected}"
  | .invalidValue found expected => s!"invalid value: {found.text}, expected {expected}"
  | .unknownVariant name known => s!"unknown variant `{name}`, expected {alternatives known}"

/-- A place in a text: lines are counted from one, columns are octets since the last line break. -/
structure Place where
  line : Nat
  column : Nat
deriving DecidableEq

/-- A fault, and where in the text it was met if it was met in a text. -/
structure Error where
  fault : Fault
  place : Option Place

def Error.message (error : Error) : String :=
  match error.place with
  | none => error.fault.message
  | some place => s!"{error.fault.message} at line {place.line} column {place.column}"

end Json

end LightShow
