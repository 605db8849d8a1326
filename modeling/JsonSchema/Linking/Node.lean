import JsonSchema.Inquiry
import JsonSchema.Linking.State
import JsonSchema.Linking.Value

/-!
A schema object, member by member. Reading it asks for the nodes of the schemas inside of it, so that the reading of one
object can be looked at on its own.
-/
namespace JsonSchema

/-- A schema that is to be read: its place and the draft address that it inherits. -/
structure Visit where
  location : Location
  inherited : Option String

/-- The reading of a schema, as far as it can go without reading the schemas inside of it. -/
abbrev Reading (α : Type) := Inquiry ReadError Visit SchemaId α

structure Site where
  location : Location
  version : Option String

namespace Site

variable {α : Type}

def draft (site : Site) : Option Draft := site.version.bind Draft.ofUri?

def pointer (site : Site) : String := site.location.pointer

/-- Whether `id` names a schema: up to draft 4, and where no draft is known. -/
def hasPlainId (site : Site) : Bool :=
  match site.draft with
  | none | some .draft3 | some .draft4 => true
  | some .draft6 | some .draft7 => false

def expect (site : Site) (keyword : Keyword) (expected : Expectation) : Option α → Reading α
  | some value => pure value
  | none => .fail (.invalidKeyword keyword site.pointer expected)

def child (site : Site) (keyword : Keyword) (steps : List String) : Reading SchemaId :=
  Inquiry.answer ⟨site.location.child (keyword.name :: steps), site.version⟩

def childList (site : Site) (keyword : Keyword) (value : Json) : Reading (List SchemaId) := do
  let items ← site.expect keyword .schemas value.items?
  (List.range items.length).mapM fun i => site.child keyword [toString i]

def childMembers (site : Site) (keyword : Keyword) (value : Json) : Reading (Members SchemaId) := do
  let members ← site.expect keyword .namedSchemas value.members?
  members.mapM fun (name, _) => do pure (name, ← site.child keyword [name])

def additional (site : Site) (keyword : Keyword) : Json → Reading (Additional SchemaId)
  | .bool true => pure .allowed
  | .bool false => pure .forbidden
  | .object _ => do pure (.schema (← site.child keyword []))
  | _ => site.expect keyword .booleanOrSchema none

def dependency (site : Site) (name : String) : Json → Reading (Dependency SchemaId)
  | .string other => pure (.names [other])
  | .array others => do
    pure (.names (← site.expect .dependencies .nameLists (Json.array others).strings?))
  | .object _ | .bool _ => do pure (.schema (← site.child .dependencies [name]))
  | _ => site.expect .dependencies .namesOrSchema none

end Site

/-- A node being read, with the exclusive bounds that are numbers. Which of two bounds counts is settled at the end,
so the order of members does not matter. -/
structure UnfinishedNode where
  node : SchemaNode
  above : Option Binary64 := none
  below : Option Binary64 := none

namespace UnfinishedNode

/-- Takes the stricter bound of an inclusive and an exclusive one. Of equal ones the exclusive one is stricter. -/
def finish (partly : UnfinishedNode) : SchemaNode :=
  let node := partly.node
  let node :=
    match partly.above with
    | some bound =>
      if node.minimum.all (Binary64.atMost · bound) then
        { node with minimum := some bound, exclusiveMinimum := true }
      else node
    | none => node
  match partly.below with
  | some bound =>
    if node.maximum.all (Binary64.atMost bound) then { node with maximum := some bound, exclusiveMaximum := true }
    else node
  | none => node

def extend (partly : UnfinishedNode) (name : String) (value : Json) : UnfinishedNode :=
  { partly with node.extensions := Members.insert partly.node.extensions name value }

/-- The names of the properties that draft 3 marks as required by a member of their schemas. -/
def requiredByMark (properties : Members Json) : List String :=
  (properties.filter fun (_, schema) =>
    match schema.member? Keyword.required.name with
    | some (.bool true) => true
    | _ => false).map Prod.fst

def read (partly : UnfinishedNode) (site : Site) (keyword : Keyword) (value : Json) :
    Reading UnfinishedNode :=
  match keyword with
  | .schema => pure partly
  | .dollarId => do
    pure { partly with node.id := some (← site.expect .dollarId .string value.string?) }
  | .id =>
    match value with
    | .string id => pure (if site.hasPlainId then { partly with node.id := some id } else partly.extend "id" value)
    | _ => pure (partly.extend "id" value)
  | .title => do pure { partly with node.title := some (← site.expect .title .string value.string?) }
  | .description => do
    pure { partly with node.description := some (← site.expect .description .string value.string?) }
  | .format => do pure { partly with node.format := some (← site.expect .format .string value.string?) }
  | .default => pure { partly with node.default := some value }
  | .readOnly => do pure { partly with node.readOnly := some (← site.expect .readOnly .boolean value.bool?) }
  | .writeOnly => do pure { partly with node.writeOnly := some (← site.expect .writeOnly .boolean value.bool?) }
  | .allOf => do pure { partly with node.allOf := some (← site.childList .allOf value) }
  | .anyOf => do pure { partly with node.anyOf := some (← site.childList .anyOf value) }
  | .oneOf => do pure { partly with node.oneOf := some (← site.childList .oneOf value) }
  | .extending => do
    let parents ←
      match value with
      | .array _ => site.childList .extending value
      | _ => do pure [← site.child .extending []]
    pure { partly with node.allOf := some (partly.node.allOf.getD [] ++ parents) }
  | .not => do pure { partly with node.not := some (← site.child .not []) }
  | .condition => do pure { partly with node.condition := some (← site.child .condition []) }
  | .consequence => do pure { partly with node.consequence := some (← site.child .consequence []) }
  | .alternative => do pure { partly with node.alternative := some (← site.child .alternative []) }
  | .const => pure { partly with node.constValue := some value }
  | .enum => do pure { partly with node.enumValues := some (← site.expect .enum .array value.items?) }
  | .type => do pure { partly with node.types := some (← Inquiry.ofExcept (TypeSet.ofJson site.pointer value)) }
  | .disallow => Inquiry.fail (.unsupportedKeyword .disallow site.pointer)
  | .minimum => do pure { partly with node.minimum := some (← site.expect .minimum .number value.binary64?) }
  | .maximum => do pure { partly with node.maximum := some (← site.expect .maximum .number value.binary64?) }
  | .exclusiveMinimum =>
    match value with
    | .bool exclusive => pure { partly with node.exclusiveMinimum := exclusive }
    | _ => do pure { partly with above := some (← site.expect .exclusiveMinimum .number value.binary64?) }
  | .exclusiveMaximum =>
    match value with
    | .bool exclusive => pure { partly with node.exclusiveMaximum := exclusive }
    | _ => do pure { partly with below := some (← site.expect .exclusiveMaximum .number value.binary64?) }
  | .multipleOf => readDivisor .multipleOf
  | .divisibleBy => readDivisor .divisibleBy
  | .minLength => do pure { partly with node.minLength := some (← site.expect .minLength .count value.count?) }
  | .maxLength => do pure { partly with node.maxLength := some (← site.expect .maxLength .count value.count?) }
  | .pattern => do pure { partly with node.pattern := some (← site.expect .pattern .string value.string?) }
  | .contentEncoding => do
    let encoding ← site.expect .contentEncoding .string value.string?
    if encoding == "base64" then pure { partly with node.base64 := true }
    else Inquiry.fail (.unknownContentEncoding encoding site.pointer)
  | .contentMediaType => do
    pure { partly with node.mediaType := some (← site.expect .contentMediaType .string value.string?) }
  | .items =>
    match value with
    | .array _ => do pure { partly with node.items := some (.tuple (← site.childList .items value)) }
    | _ => do pure { partly with node.items := some (.every (← site.child .items [])) }
  | .additionalItems => do
    pure { partly with node.additionalItems := ← site.additional .additionalItems value }
  | .contains => do pure { partly with node.contains := some (← site.child .contains []) }
  | .minItems => do pure { partly with node.minItems := some (← site.expect .minItems .count value.count?) }
  | .maxItems => do pure { partly with node.maxItems := some (← site.expect .maxItems .count value.count?) }
  | .uniqueItems => do
    pure { partly with node.uniqueItems := ← site.expect .uniqueItems .boolean value.bool? }
  | .properties => do
    let properties ← site.childMembers .properties value
    let marked := if site.draft = some .draft3 then requiredByMark (value.members?.getD []) else []
    pure { partly with
      node.properties := properties, node.required := marked.foldl insertName partly.node.required }
  | .patternProperties => do
    pure { partly with node.patternProperties := ← site.childMembers .patternProperties value }
  | .additionalProperties => do
    pure { partly with node.additionalProperties := ← site.additional .additionalProperties value }
  | .propertyNames => do pure { partly with node.propertyNames := some (← site.child .propertyNames []) }
  | .required =>
    match value with
    | .bool _ =>
      if site.draft = some .draft3 then pure partly else site.expect .required .strings none
    | _ => do
      let names ← site.expect .required .strings value.strings?
      pure { partly with node.required := names.foldl insertName partly.node.required }
  | .dependencies => do
    let members ← site.expect .dependencies .object value.members?
    let dependencies ← members.mapM fun (name, value) => do pure (name, ← site.dependency name value)
    pure { partly with node.dependencies := dependencies }
  | .minProperties => do
    pure { partly with node.minProperties := some (← site.expect .minProperties .count value.count?) }
  | .maxProperties => do
    pure { partly with node.maxProperties := some (← site.expect .maxProperties .count value.count?) }
  | .reference => pure (partly.extend "$ref" value)
where
  readDivisor (keyword : Keyword) : Reading UnfinishedNode := do
    discard (site.expect keyword .number value.binary64?)
    pure { partly with node.multipleOf := some (← site.expect keyword .positive value.divisor?) }

end UnfinishedNode

def versionAt (location : Location) (members : Members Json) (inherited : Option String) : Reading (Option String) :=
  match Members.find? members Keyword.schema.name with
  | some (.string version) => pure (some version)
  | some _ => .fail (.invalidKeyword .schema location.pointer .uri)
  | none => pure inherited

def readMember (site : Site) (partly : UnfinishedNode) : String × Json → Reading UnfinishedNode
  | (name, value) =>
    match Keyword.ofName? name with
    | some keyword => partly.read site keyword value
    | none => pure (partly.extend name value)

def readObject (location : Location) (members : Members Json) (inherited : Option String) : Reading SchemaNode := do
  let version ← versionAt location members inherited
  let start : UnfinishedNode := { node := { version := version } }
  let partly ← members.foldlM (readMember ⟨location, version⟩) start
  pure partly.finish

end JsonSchema
