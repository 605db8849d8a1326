/-! The members of a schema object that have a meaning. All others are extensions, which a node carries along. -/
namespace JsonSchema

inductive Keyword where
  | schema
  | reference
  | dollarId
  | id
  | title
  | description
  | format
  | default
  | readOnly
  | writeOnly
  | allOf
  | anyOf
  | oneOf
  | extending
  | not
  | condition
  | consequence
  | alternative
  | const
  | enum
  | type
  | disallow
  | minimum
  | maximum
  | exclusiveMinimum
  | exclusiveMaximum
  | multipleOf
  | divisibleBy
  | minLength
  | maxLength
  | pattern
  | contentEncoding
  | contentMediaType
  | items
  | additionalItems
  | contains
  | minItems
  | maxItems
  | uniqueItems
  | properties
  | patternProperties
  | additionalProperties
  | propertyNames
  | required
  | dependencies
  | minProperties
  | maxProperties
deriving DecidableEq

namespace Keyword

def name : Keyword → String
  | schema => "$schema"
  | reference => "$ref"
  | dollarId => "$id"
  | id => "id"
  | title => "title"
  | description => "description"
  | format => "format"
  | default => "default"
  | readOnly => "readOnly"
  | writeOnly => "writeOnly"
  | allOf => "allOf"
  | anyOf => "anyOf"
  | oneOf => "oneOf"
  | extending => "extends"
  | not => "not"
  | condition => "if"
  | consequence => "then"
  | alternative => "else"
  | const => "const"
  | enum => "enum"
  | type => "type"
  | disallow => "disallow"
  | minimum => "minimum"
  | maximum => "maximum"
  | exclusiveMinimum => "exclusiveMinimum"
  | exclusiveMaximum => "exclusiveMaximum"
  | multipleOf => "multipleOf"
  | divisibleBy => "divisibleBy"
  | minLength => "minLength"
  | maxLength => "maxLength"
  | pattern => "pattern"
  | contentEncoding => "contentEncoding"
  | contentMediaType => "contentMediaType"
  | items => "items"
  | additionalItems => "additionalItems"
  | contains => "contains"
  | minItems => "minItems"
  | maxItems => "maxItems"
  | uniqueItems => "uniqueItems"
  | properties => "properties"
  | patternProperties => "patternProperties"
  | additionalProperties => "additionalProperties"
  | propertyNames => "propertyNames"
  | required => "required"
  | dependencies => "dependencies"
  | minProperties => "minProperties"
  | maxProperties => "maxProperties"

def all : List Keyword :=
  [schema, reference, dollarId, id, title, description, format, default, readOnly, writeOnly, allOf, anyOf, oneOf,
    extending, not, condition, consequence, alternative, const, enum, type, disallow, minimum, maximum,
    exclusiveMinimum, exclusiveMaximum, multipleOf, divisibleBy, minLength, maxLength, pattern, contentEncoding,
    contentMediaType, items, additionalItems, contains, minItems, maxItems, uniqueItems, properties,
    patternProperties, additionalProperties, propertyNames, required, dependencies, minProperties, maxProperties]

def ofName? (name : String) : Option Keyword := all.find? fun keyword => keyword.name == name

theorem ofName?_name (keyword : Keyword) : ofName? keyword.name = some keyword := by cases keyword <;> decide

theorem name_inj {keyword other : Keyword} : keyword.name = other.name ↔ keyword = other := by
  refine ⟨fun h => ?_, congrArg name⟩
  have hsame := ofName?_name keyword
  rw [h, ofName?_name] at hsame
  exact (Option.some.inj hsame).symm

theorem name_of_ofName? {name : String} {keyword : Keyword} (h : ofName? name = some keyword) :
    keyword.name = name := by
  simpa using List.find?_some h

end Keyword

end JsonSchema
