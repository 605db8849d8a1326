import JsonSchema.Binary64.Shortest
import JsonSchema.Json.Text
import JsonSchema.Text.Escaped

/-! The words for what is wrong with a JSON text, where it is wrong, and which value was being read. -/
namespace JsonSchema.Json.Text

def Found.text : Found → String
  | null => "null"
  | bool value => "boolean `" ++ toString value ++ "`"
  | integer value => "integer `" ++ toString value ++ "`"
  | float value => "floating point `" ++ value.text ++ "`"
  | string value => "string " ++ JsonSchema.Text.inQuotes value
  | sequence => "sequence"
  | map => "map"

def oneOf (names : List String) : String :=
  match names.map fun name => "`" ++ name ++ "`" with
  | [] => "nothing"
  | [name] => name
  | [first, second] => first ++ " or " ++ second
  | names => "one of " ++ String.intercalate ", " names

def Reason.text : Reason → String
  | eofValue => "EOF while parsing a value"
  | eofString => "EOF while parsing a string"
  | eofList => "EOF while parsing a list"
  | eofObject => "EOF while parsing an object"
  | expectedValue => "expected value"
  | expectedIdent => "expected ident"
  | expectedColon => "expected `:`"
  | expectedListCommaOrEnd => "expected `,` or `]`"
  | expectedObjectCommaOrEnd => "expected `,` or `\x7d`"
  | keyMustBeString => "key must be a string"
  | trailingComma => "trailing comma"
  | trailingCharacters => "trailing characters"
  | invalidNumber => "invalid number"
  | numberOutOfRange => "number out of range"
  | invalidEscape => "invalid escape"
  | loneSurrogate => "lone leading surrogate in hex escape"
  | unpairedSurrogate => "unexpected end of hex escape"
  | controlCharacter => "control character (\\u0000-\\u001F) found while parsing a string"
  | invalidUtf8 => "invalid unicode code point"
  | recursionLimit => "recursion limit exceeded"
  | invalidType found expected => "invalid type: " ++ found.text ++ ", expected " ++ expected
  | invalidValue found expected => "invalid value: " ++ found.text ++ ", expected " ++ expected
  | invalidLength length expected => "invalid length " ++ toString length ++ ", expected " ++ expected
  | unknownField name fields => "unknown field `" ++ name ++ "`, expected " ++ oneOf fields
  | duplicateField name => "duplicate field `" ++ name ++ "`"
  | missingField name => "missing field `" ++ name ++ "`"

def Fault.text (fault : Fault) : String :=
  fault.reason.text ++ " at line " ++ toString fault.position.line ++ " column " ++ toString fault.position.column

def stepsText : List PathStep → String
  | [] => ""
  | .member name :: rest => "." ++ name ++ stepsText rest
  | .index i :: rest => "[" ++ toString i ++ "]" ++ stepsText rest
  | .unknown :: rest => ".?" ++ stepsText rest

def pathText : List PathStep → String
  | [] => "."
  | .member name :: rest => name ++ stepsText rest
  | .index i :: rest => "[" ++ toString i ++ "]" ++ stepsText rest
  | .unknown :: rest => "?" ++ stepsText rest

end JsonSchema.Json.Text
