import JsonSchema.Check
import JsonSchema.Json.Equality
import JsonSchema.Json.Text.Skim
import JsonSchema.Text.Base64
import JsonSchema.Unicode.Cluster

/-!
The constraints that nodes may put on values: one per keyword or group of keywords that belong together. A constraint
makes a check out of a node that uses it. The list of constraints that are carried out, and their order, can be chosen;
`Constraint.builtin` is the usual one.
-/
namespace JsonSchema

inductive CompileError where
  | unsupportedMediaType (mediaType : String) (node : SchemaId)
  | unfilledSlot (node : SchemaId)
  | missingNode (node : SchemaId)
deriving DecidableEq

namespace CompileError

def message : CompileError → String
  | unsupportedMediaType mediaType node =>
    "contentMediaType `" ++ mediaType ++ "` on schema " ++ node.text ++ " is not supported"
  | unfilledSlot node => "forward reference slot for schema " ++ node.text ++ " was never filled"
  | missingNode node => "schema " ++ node.text ++ " does not exist in the graph"

end CompileError

/-- The tests that pattern texts stand for, with nothing for a text that is no pattern. -/
abbrev PatternEngine := String → Option (String → Bool)

/-- What a node asks of values in one respect, or nothing if it asks nothing. -/
abbrev Constraint := PatternEngine → SchemaId → SchemaNode → Except CompileError (Option (Check SchemaId))

namespace Constraint

def onNumbers (accepts : Number → Bool) : Check SchemaId :=
  .test fun
    | .number n => accepts n
    | _ => true

def onStrings (accepts : String → Bool) : Check SchemaId :=
  .test fun
    | .string s => accepts s
    | _ => true

def onArrays (accepts : List Json → Bool) : Check SchemaId :=
  .test fun
    | .array items => accepts items
    | _ => true

def onObjects (accepts : Members Json → Bool) : Check SchemaId :=
  .test fun
    | .object members => accepts members
    | _ => true

def isBetween (least most : Option Nat) (count : Nat) : Bool := least.all (· ≤ count) && most.all (count ≤ ·)

def allOf : Constraint := fun _ _ node => .ok (node.allOf.map .allOf)

def anyOf : Constraint := fun _ _ node => .ok (node.anyOf.map .anyOf)

def oneOf : Constraint := fun _ _ node => .ok (node.oneOf.map .oneOf)

def not : Constraint := fun _ _ node => .ok (node.not.map .not)

/-- Branches without a condition say nothing. -/
def conditional : Constraint := fun _ _ node =>
  .ok (node.condition.map fun condition => .conditional condition node.consequence node.alternative)

def const : Constraint := fun _ _ node => .ok (node.constValue.map fun value => .test value.equals)

def enum : Constraint := fun _ _ node =>
  .ok (node.enumValues.map fun values => .test fun value => values.any (·.equals value))

def type : Constraint := fun _ _ node => .ok (node.types.map fun types => .test (types.admits node.strictIntegers))

def minimum : Constraint := fun _ _ node =>
  .ok (node.minimum.map fun bound => onNumbers (·.meetsMinimum bound node.exclusiveMinimum))

def maximum : Constraint := fun _ _ node =>
  .ok (node.maximum.map fun bound => onNumbers (·.meetsMaximum bound node.exclusiveMaximum))

def multipleOf : Constraint := fun _ _ node =>
  .ok (node.multipleOf.map fun divisor => onNumbers (·.isMultipleOf divisor))

/-- Lengths are counted in characters as a reader sees them. -/
def length : Constraint := fun _ _ node =>
  .ok (if node.minLength.isNone && node.maxLength.isNone then none
    else some (onStrings fun s => isBetween node.minLength node.maxLength (Unicode.clusterCount s)))

/-- The pattern matches somewhere in the string. What is no pattern matches nothing. -/
def pattern : Constraint := fun engine _ node =>
  .ok (node.pattern.map fun source => onStrings ((engine source).getD fun _ => false))

def isJsonMediaType (name : String) : Bool :=
  let essence := Text.trim (String.ofList (name.toList.takeWhile (· != ';')))
  essence.toList.map Char.toLower == "application/json".toList

def holdsContent (base64 isJson : Bool) (s : String) : Bool :=
  match if base64 then Base64.decodeText? s else some (Utf8.bytes s) with
  | some bytes => !isJson || Json.Text.isWellFormed bytes
  | none => false

/-- The only media type that can be checked is JSON. -/
def content : Constraint := fun _ id node =>
  match node.mediaType with
  | none => .ok (if node.base64 then some (onStrings (holdsContent true false)) else none)
  | some name =>
    if isJsonMediaType name then .ok (some (onStrings (holdsContent node.base64 true)))
    else .error (.unsupportedMediaType name id)

/-- What is said of further elements counts only after positions. -/
def items : Constraint := fun _ _ node =>
  .ok (node.items.map fun
    | .every schema => .every schema
    | .tuple schemas => .tuple schemas node.additionalItems)

def contains : Constraint := fun _ _ node => .ok (node.contains.map .contains)

def itemCount : Constraint := fun _ _ node =>
  .ok (if node.minItems.isNone && node.maxItems.isNone then none
    else some (onArrays fun items => isBetween node.minItems node.maxItems items.length))

def uniqueItems : Constraint := fun _ _ node =>
  .ok (if node.uniqueItems then some (onArrays Json.areDistinct) else none)

def properties : Constraint := fun _ _ node =>
  .ok (if node.properties.isEmpty then none else some (.properties node.properties))

def patternProperties : Constraint := fun engine _ node =>
  .ok (if node.patternProperties.isEmpty then none
    else some (.patternProperties (node.patternProperties.map fun (source, schema) => (engine source, schema))))

def isCovered (declared : List String) (tests : List (String → Bool)) (name : String) : Bool :=
  declared.contains name || tests.any (· name)

def additionalProperties : Constraint := fun engine _ node =>
  let covered := isCovered (Members.names node.properties) ((Members.names node.patternProperties).filterMap engine)
  .ok (match node.additionalProperties with
    | .allowed => none
    | .forbidden => some (.additionalProperties covered none)
    | .schema schema => some (.additionalProperties covered (some schema)))

def propertyNames : Constraint := fun _ _ node => .ok (node.propertyNames.map .propertyNames)

def required : Constraint := fun _ _ node =>
  .ok (if node.required.isEmpty then none
    else some (onObjects fun members => node.required.all (Members.contains members)))

def dependencies : Constraint := fun _ _ node =>
  .ok (if node.dependencies.isEmpty then none else some (.dependencies node.dependencies))

def propertyCount : Constraint := fun _ _ node =>
  .ok (if node.minProperties.isNone && node.maxProperties.isNone then none
    else some (onObjects fun members => isBetween node.minProperties node.maxProperties members.length))

def builtin : List Constraint :=
  [allOf, anyOf, oneOf, not, conditional, const, enum, type, minimum, maximum, multipleOf, length, pattern, content,
    items, contains, itemCount, uniqueItems, properties, patternProperties, additionalProperties, propertyNames,
    required, dependencies, propertyCount]

end Constraint

end JsonSchema
