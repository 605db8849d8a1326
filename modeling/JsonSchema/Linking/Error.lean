import JsonSchema.Linking.Keyword
import JsonSchema.TypeSet

/-! What can be wrong with the structure of a schema document. Pointers say where in its document the fault lies. -/
namespace JsonSchema

/-- What a keyword asks of its value. -/
inductive Expectation where
  | uri
  | string
  | boolean
  | number
  | positive
  | count
  | schemas
  | namedSchemas
  | booleanOrSchema
  | array
  | strings
  | object
  | nameLists
  | namesOrSchema
  | typeNames
  | typeNameOrTypeNames
deriving DecidableEq

def Expectation.text : Expectation → String
  | uri => "a URI string"
  | string => "a string"
  | boolean => "a boolean"
  | number => "a number"
  | positive => "a number greater than 0"
  | count => "a non-negative integer"
  | schemas => "an array of schemas"
  | namedSchemas => "an object of schemas"
  | booleanOrSchema => "a boolean or a schema"
  | array => "an array"
  | strings => "an array of strings"
  | object => "an object"
  | nameLists => "arrays of property names"
  | namesOrSchema => "property names or schemas"
  | typeNames => "type names"
  | typeNameOrTypeNames => "a type name or an array of them"

def PrimitiveType.withArticle : PrimitiveType → String
  | null => "null"
  | integer => "an integer"
  | object => "an object"
  | array => "an array"
  | other => "a " ++ other.name

inductive ReadError where
  | notASchema (pointer : String) (found : PrimitiveType)
  | invalidKeyword (keyword : Keyword) (pointer : String) (expected : Expectation)
  | unknownType (name pointer : String)
  | unknownContentEncoding (encoding pointer : String)
  | unsupportedKeyword (keyword : Keyword) (pointer : String)
  | unresolvedReference (reference pointer : String)
  | circularReference (reference pointer : String)
  | invalidPointer (pointer : String)
deriving DecidableEq

namespace ReadError

def message : ReadError → String
  | notASchema pointer found =>
    "schema at `" ++ pointer ++ "` must be an object or a boolean, found " ++ found.withArticle
  | invalidKeyword keyword pointer expected =>
    "keyword `" ++ keyword.name ++ "` at `" ++ pointer ++ "` expects " ++ expected.text
  | unknownType name pointer => "unknown type name `" ++ name ++ "` at `" ++ pointer ++ "`"
  | unknownContentEncoding encoding pointer =>
    "unsupported content encoding `" ++ encoding ++ "` at `" ++ pointer ++ "`"
  | unsupportedKeyword keyword pointer =>
    "keyword `" ++ keyword.name ++ "` at `" ++ pointer ++ "` is not supported"
  | unresolvedReference reference pointer =>
    "cannot resolve `$ref` \"" ++ reference ++ "\" at `" ++ pointer ++ "`"
  | circularReference reference pointer =>
    "`$ref` \"" ++ reference ++ "\" at `" ++ pointer ++ "` only refers back to itself"
  | invalidPointer pointer => "invalid JSON pointer `" ++ pointer ++ "`"

end ReadError

end JsonSchema
