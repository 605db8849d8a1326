import JsonSchema.Linking.Node
import JsonSchema.Linking.Reference
import JsonSchema.Options

/-!
Reading schema documents into graphs. Every place that holds a schema becomes one node, made before the schemas inside
of it are read; so a reference that leads back finds its node, and recursion in the document is a cycle in the graph.
A reference stands for the node of the place that it names, and members beside it are not looked at.
-/
namespace JsonSchema

namespace Linking

/-- Follows a reference. The places of a chain of references get their node when its end is known, so a chain that
comes back to a reference on the way never reaches a schema. -/
def follow (source : LinkSource) (visit : Visit → Linking SchemaId) (location : Location) (reference : String)
    (inherited : Option String) : Linking SchemaId := do
  let target ← target source location reference
  let state ← get
  match state.nodeAt? target with
  | some id => do
    set (state.locate location id)
    pure id
  | none => do
    if location ∈ state.underway then throw (.circularReference reference location.pointer)
    set { state with underway := location :: state.underway }
    let version :=
      if target.document = location.document then inherited else (state.versionOf target.document).or inherited
    let id ← visit ⟨target, version⟩
    modify fun state => { state.locate location id with underway := state.underway.erase location }
    pure id

def readPlace (source : LinkSource) (visit : Visit → Linking SchemaId) (location : Location)
    (inherited : Option String) : Linking SchemaId := do
  let state ← get
  match state.valueAt? location with
  | none => throw (.invalidPointer location.pointer)
  | some (.bool valid) => do
    let (id, graph) := state.graph.add (.boolean valid)
    set ({ state with graph := graph }.locate location id)
    pure id
  | some (.object members) =>
    match Members.find? members Keyword.reference.name with
    | some (.string reference) => follow source visit location reference inherited
    | some _ => throw (.invalidKeyword .reference location.pointer .string)
    | none => do
      let (id, graph) := state.graph.reserve
      set ({ state with graph := graph }.locate location id)
      let node ← (readObject location members inherited).run visit
      modify fun state => { state with graph := state.graph.set id node }
      pure id
  | some other => throw (.notASchema location.pointer (.ofValue other))

/-- The node of the schema at a place, which is read if that has not been done. Each round nests one schema deeper. -/
def visit (source : LinkSource) : Nat → Visit → Linking SchemaId
  | 0, _ => outOfRounds
  | rounds + 1, ⟨location, inherited⟩ => do
    match (← get).nodeAt? location with
    | some id => pure id
    | none => readPlace source (visit source rounds) location inherited

end Linking

namespace Json

/-- The number of ways to write a name in a pointer: a tilde may be escaped, or stand for itself. -/
def spellings (name : String) : Nat := Nat.pow 2 (name.toList.count '~')

mutual

/-- A bound on the number of pointers that lead to parts of a value. -/
def pointerCount : Json → Nat
  | array items => pointerCountOfItems items + 1
  | object members => pointerCountOfMembers members + 1
  | _ => 1

def pointerCountOfItems : List Json → Nat
  | [] => 0
  | item :: rest => pointerCount item + pointerCountOfItems rest

def pointerCountOfMembers : List (String × Json) → Nat
  | [] => 0
  | (name, value) :: rest => spellings name * pointerCount value + pointerCountOfMembers rest

end

end Json

structure Reader where
  options : ReaderOptions := {}
  source : LinkSource := {}

namespace Reader

def start (reader : Reader) (document : Json) : LinkState :=
  ((LinkState.takeUp {} reader.source.rules none document)).2

/-- Every schema that is read inside of another one, and every reference that is followed, is at a place of its own,
so there are no more rounds than places; one more finds the end. -/
def rounds (reader : Reader) (document : Json) : Nat :=
  (document :: Members.values reader.source.documents.entries).foldl (fun n root => n + root.pointerCount) 2

def link? (reader : Reader) (document : Json) : Option (Except ReadError SchemaId × LinkState) :=
  let state := reader.start document
  let version := (state.versionOf 0).or reader.options.defaultVersion
  (Linking.visit reader.source (reader.rounds document) ⟨⟨0, ""⟩, version⟩).run state

def read? (reader : Reader) (document : Json) : Option (Except ReadError Schema) :=
  (reader.link? document).map fun (result, state) => result.map fun root => ⟨state.graph, root⟩

end Reader

end JsonSchema
