import JsonSchema.Documents
import JsonSchema.Graph
import JsonSchema.Json.Pointer
import JsonSchema.Linking.Error

/-!
The state of linking: the documents met so far, the graph as far as it is built, and the node of each place that has
been read. It outlives a failure, so what was loaded by then can still be looked at.
-/
namespace JsonSchema

structure Location where
  document : Nat
  pointer : String
deriving DecidableEq

def Location.child (location : Location) (steps : List String) : Location :=
  { location with pointer := steps.foldl Json.Pointer.push location.pointer }

/-- A document with the address that its references are relative to and the draft address at its root. -/
structure LoadedDocument where
  base : Option Uri
  version : Option String
  root : Json

structure LinkState where
  documents : List LoadedDocument := []
  /-- The documents by the keys of their addresses. -/
  byKey : Members Nat := []
  graph : SchemaGraph := .empty
  /-- The nodes of places, those found last in front. -/
  placed : List (Location × SchemaId) := []
  /-- The references that are being followed. -/
  underway : List Location := []

namespace LinkState

def nodeAt? (state : LinkState) (location : Location) : Option SchemaId := state.placed.lookup location

def valueAt? (state : LinkState) (location : Location) : Option Json :=
  state.documents[location.document]?.bind fun document => document.root.at? location.pointer

def versionOf (state : LinkState) (document : Nat) : Option String :=
  state.documents[document]?.bind LoadedDocument.version

def baseOf (state : LinkState) (document : Nat) : Option Uri :=
  state.documents[document]?.bind LoadedDocument.base

def locate (state : LinkState) (location : Location) (id : SchemaId) : LinkState :=
  { state with placed := (location, id) :: state.placed }

/-- Registers a document under a key, unless another one is known by it. -/
def register (state : LinkState) (key : String) (document : Nat) : LinkState :=
  { state with
    byKey := if Members.contains state.byKey key then state.byKey else Members.insert state.byKey key document }

def declaredId? (root : Json) : Option String :=
  ((root.member? Keyword.dollarId.name).or (root.member? Keyword.id.name)).bind Json.string?

/-- The address that references in a document are relative to: the one that it declares, against the one that it was
found at. -/
def baseOfRoot (rules : UriRules) (foundAt : Option String) (root : Json) : Option Uri :=
  let retrieval := foundAt.bind rules.parse?
  match declaredId? root, retrieval with
  | some id, some retrieval => some ((rules.join? retrieval id).getD retrieval)
  | some id, none => rules.parse? id
  | none, retrieval => retrieval

/-- Takes up a document under the address that it was found at and the one that it declares; also its number. -/
def takeUp (state : LinkState) (rules : UriRules) (foundAt : Option String) (root : Json) : Nat × LinkState :=
  let base := baseOfRoot rules foundAt root
  let number := state.documents.length
  let keys := ([foundAt, base.map Uri.text].filterMap id).map rules.key
  let state := keys.foldl (fun state key => state.register key number) state
  let version := (root.member? Keyword.schema.name).bind Json.string?
  (number, { state with documents := state.documents ++ [⟨base, version, root⟩] })

end LinkState

/-- Steps of linking. They change the state, may fail, and give no answer if they were to take more rounds than they
were allowed. -/
abbrev Linking (α : Type) := ExceptT ReadError (StateT LinkState Option) α

namespace Linking

variable {α : Type}

def outOfRounds : Linking α := fun _ => none

def run (steps : Linking α) (state : LinkState) : Option (Except ReadError α × LinkState) := steps state

end Linking

end JsonSchema
