import JsonSchema.Draft
import JsonSchema.TypeSet

/-!
Schemas as graphs. Nodes refer to each other by their place in the graph, so a schema that refers back to itself is
plain data, and a node is the same as another exactly if its place is.
-/
namespace JsonSchema

structure SchemaId where
  index : Nat
deriving DecidableEq

namespace SchemaId

def text (id : SchemaId) : String := "#" ++ toString id.index

end SchemaId

/-- What `items` says: one schema for every element, or one for each position. -/
inductive Items (ρ : Type) where
  | every (schema : ρ)
  | tuple (schemas : List ρ)
deriving DecidableEq

/-- What is said of elements or members that nothing else covers. -/
inductive Additional (ρ : Type) where
  | allowed
  | forbidden
  | schema (schema : ρ)
deriving DecidableEq

/-- What the presence of a member asks for: other members, or that the whole object fits a schema. -/
inductive Dependency (ρ : Type) where
  | names (names : List String)
  | schema (schema : ρ)
deriving DecidableEq

/-- One schema: its keywords, and the annotations that it carries along. With `valid` it is a boolean schema, of which
nothing else is looked at. -/
structure SchemaNode where
  valid : Option Bool := none
  allOf : Option (List SchemaId) := none
  anyOf : Option (List SchemaId) := none
  oneOf : Option (List SchemaId) := none
  not : Option SchemaId := none
  condition : Option SchemaId := none
  consequence : Option SchemaId := none
  alternative : Option SchemaId := none
  constValue : Option Json := none
  enumValues : Option (List Json) := none
  types : Option TypeSet := none
  minimum : Option Binary64 := none
  maximum : Option Binary64 := none
  exclusiveMinimum : Bool := false
  exclusiveMaximum : Bool := false
  multipleOf : Option Binary64 := none
  minLength : Option Nat := none
  maxLength : Option Nat := none
  pattern : Option String := none
  base64 : Bool := false
  mediaType : Option String := none
  items : Option (Items SchemaId) := none
  additionalItems : Additional SchemaId := .allowed
  contains : Option SchemaId := none
  minItems : Option Nat := none
  maxItems : Option Nat := none
  uniqueItems : Bool := false
  properties : Members SchemaId := []
  patternProperties : Members SchemaId := []
  additionalProperties : Additional SchemaId := .allowed
  propertyNames : Option SchemaId := none
  required : List String := []
  dependencies : Members (Dependency SchemaId) := []
  minProperties : Option Nat := none
  maxProperties : Option Nat := none
  title : Option String := none
  description : Option String := none
  format : Option String := none
  default : Option Json := none
  readOnly : Option Bool := none
  writeOnly : Option Bool := none
  extensions : Members Json := []
  version : Option String := none
  id : Option String := none

namespace SchemaNode

instance : Inhabited SchemaNode := ⟨{}⟩

def boolean (valid : Bool) : SchemaNode := { valid := some valid }

def draft (node : SchemaNode) : Option Draft := node.version.bind Draft.ofUri?

def strictIntegers (node : SchemaNode) : Bool := node.draft.any Draft.strictIntegers

def children (node : SchemaNode) : List SchemaId :=
  [node.allOf, node.anyOf, node.oneOf].flatMap (·.getD []) ++
    [node.not, node.condition, node.consequence, node.alternative, node.contains, node.propertyNames].filterMap (·) ++
    (match node.items with
      | some (.every schema) => [schema]
      | some (.tuple schemas) => schemas
      | none => []) ++
    [node.additionalItems, node.additionalProperties].filterMap (fun
      | .schema id => some id
      | _ => none) ++
    Members.values node.properties ++
    Members.values node.patternProperties ++
    (Members.values node.dependencies).filterMap (fun
      | .schema id => some id
      | _ => none)

end SchemaNode

structure SchemaGraph where
  nodes : Array SchemaNode

namespace SchemaGraph

def empty : SchemaGraph := ⟨#[]⟩

instance : Inhabited SchemaGraph := ⟨empty⟩

def size (graph : SchemaGraph) : Nat := graph.nodes.size

def get? (graph : SchemaGraph) (id : SchemaId) : Option SchemaNode := graph.nodes[id.index]?

def add (graph : SchemaGraph) (node : SchemaNode) : SchemaId × SchemaGraph := (⟨graph.size⟩, ⟨graph.nodes.push node⟩)

def reserve (graph : SchemaGraph) : SchemaId × SchemaGraph := graph.add {}

/-- Replaces a node. A place outside the graph leaves it as it is. -/
def set (graph : SchemaGraph) (id : SchemaId) (node : SchemaNode) : SchemaGraph :=
  ⟨graph.nodes.setIfInBounds id.index node⟩

def ids (graph : SchemaGraph) : List SchemaId := (List.range graph.size).map SchemaId.mk

@[simp] theorem size_empty : empty.size = 0 := rfl

@[simp] theorem size_add (graph : SchemaGraph) (node : SchemaNode) : (graph.add node).2.size = graph.size + 1 := by
  simp [add, size]

@[simp] theorem size_set (graph : SchemaGraph) (id : SchemaId) (node : SchemaNode) :
    (graph.set id node).size = graph.size := by
  simp [set, size]

theorem get?_isSome_iff {graph : SchemaGraph} {id : SchemaId} : (graph.get? id).isSome ↔ id.index < graph.size := by
  simp [get?, size]

theorem get?_add_self (graph : SchemaGraph) (node : SchemaNode) :
    (graph.add node).2.get? (graph.add node).1 = some node := by
  simp [get?, add, size]

theorem get?_add_of_lt {graph : SchemaGraph} {id : SchemaId} (h : id.index < graph.size) (node : SchemaNode) :
    (graph.add node).2.get? id = graph.get? id := by
  simp only [get?, add, size] at *
  rw [Array.getElem?_push, if_neg (by omega)]

theorem get?_set_self {graph : SchemaGraph} {id : SchemaId} (h : id.index < graph.size) (node : SchemaNode) :
    (graph.set id node).get? id = some node := by
  simp only [get?, set, size] at *
  simp [h]

theorem get?_set_of_ne {graph : SchemaGraph} {id other : SchemaId} (h : id ≠ other) (node : SchemaNode) :
    (graph.set id node).get? other = graph.get? other := by
  have h' : id.index ≠ other.index := fun e => h (by cases id; cases other; simp_all)
  simp [get?, set, h']

end SchemaGraph

structure Schema where
  graph : SchemaGraph
  root : SchemaId

namespace Schema

def rootNode? (schema : Schema) : Option SchemaNode := schema.graph.get? schema.root

end Schema

end JsonSchema
