import WidgetTemplate.Decimal.Text
import WidgetTemplate.Node.Schema
import WidgetTemplate.Text.Position
import WidgetTemplate.Text.Quoted

/-!
# Why JSON text is not read

A failure has a cause and, as a rule, a position.  While a text is read, a
position is what is left of the text and a number of bytes past that point;
it becomes a line and a column when the failure is reported.  Some causes only
get their position from the value around them.
-/

namespace WidgetTemplate.Json

/-- A value that was found where another type was expected. -/
inductive Found where
  | null
  | bool (value : Bool)
  | integer (value : Int)
  | float (value : Float)
  | string (value : String)
  | sequence
  | map
  | unitVariant

/-- How reports name what was found. -/
def Found.describe : Found → String
  | .null => "null"
  | .bool value => "boolean `" ++ toString value ++ "`"
  | .integer value => "integer `" ++ toString value ++ "`"
  | .float value => "floating point `" ++ Decimal.mixedText value ++ "`"
  | .string value => "string " ++ Text.quoted value
  | .sequence => "sequence"
  | .map => "map"
  | .unitVariant => "unit variant"

/-- What is wrong with a text. -/
inductive Cause where
  | eofInList
  | eofInObject
  | eofInString
  | eofInValue
  | expectedColon
  | expectedListCommaOrEnd
  | expectedObjectCommaOrEnd
  | expectedWord
  | expectedValue
  | invalidEscape
  | invalidNumber
  | numberOutOfRange
  | controlCharacter
  | keyNotString
  | loneSurrogate
  | trailingComma
  | trailingCharacters
  | endOfHexEscape
  | nestedTooDeep
  /-- A value has another type than the expected one. -/
  | invalidType (found : Found) (expected : String)
  /-- An element written as a list has too few items. -/
  | invalidLength (length : Nat)
  | unknownForm (key : String)
  | missingField (field : Schema.Field)
  | duplicateField (field : Schema.Field)
  /-- A value is no attribute value. -/
  | noAttributeValue

/-- The report of a cause. -/
def Cause.message : Cause → String
  | .eofInList => "EOF while parsing a list"
  | .eofInObject => "EOF while parsing an object"
  | .eofInString => "EOF while parsing a string"
  | .eofInValue => "EOF while parsing a value"
  | .expectedColon => "expected `:`"
  | .expectedListCommaOrEnd => "expected `,` or `]`"
  | .expectedObjectCommaOrEnd => "expected `,` or `\x7d`"
  | .expectedWord => "expected ident"
  | .expectedValue => "expected value"
  | .invalidEscape => "invalid escape"
  | .invalidNumber => "invalid number"
  | .numberOutOfRange => "number out of range"
  | .controlCharacter =>
      "control character (\\u0000-\\u001F) found while parsing a string"
  | .keyNotString => "key must be a string"
  | .loneSurrogate => "lone leading surrogate in hex escape"
  | .trailingComma => "trailing comma"
  | .trailingCharacters => "trailing characters"
  | .endOfHexEscape => "unexpected end of hex escape"
  | .nestedTooDeep => "recursion limit exceeded"
  | .invalidType found expected => Schema.invalidType found.describe expected
  | .invalidLength length => Schema.invalidLength length
  | .unknownForm key => Schema.unknownForm key
  | .missingField field => Schema.missingField field
  | .duplicateField field => Schema.duplicateField field
  | .noAttributeValue => Schema.noAttributeValue

/-- Why a text is not read, and where. -/
structure Failure where
  cause : Cause
  /-- What is left of the text. -/
  rest : List Char
  /-- How many bytes past that point the position is, once it is settled. -/
  past : Option Nat

namespace Failure

/-- A failure where the rest of the text begins. -/
def here (cause : Cause) (rest : List Char) : Failure :=
  { cause, rest
    past := some 0 }

/-- A failure at the next byte, if there is one. -/
def next (cause : Cause) (rest : List Char) : Failure :=
  { cause, rest
    past := some (if rest.isEmpty then 0 else 1) }

/-- A failure that the value around it gives a position. -/
def floating (cause : Cause) (rest : List Char) : Failure :=
  { cause, rest
    past := none }

/-- The failure with a position, which is `rest` unless it has one already. -/
def settle (failure : Failure) (rest : List Char) : Failure :=
  match failure.past with
  | some _ => failure
  | none => { failure with rest, past := some 0 }

/-- The report of a failure in a text. -/
def message (failure : Failure) (source : List Char) : String :=
  match failure.past with
  | none => failure.cause.message
  | some past =>
      let bytes := Text.byteLength source - Text.byteLength failure.rest + past
      failure.cause.message ++ " at " ++ (Text.positionAt source bytes).text

end Failure

/-- Reads something from the start of a text and returns what is left. -/
abbrev Reader (α : Type) := List Char → Except Failure (α × List Char)

end WidgetTemplate.Json
