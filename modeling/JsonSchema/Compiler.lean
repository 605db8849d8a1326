import JsonSchema.Constraint
import JsonSchema.Inquiry
import JsonSchema.Validator

/-!
From graphs to predicates. Nodes are compiled depth first and only once. A node that is met while it is being compiled
gets a slot, which is filled when it is finished; so cycles of the graph are cut at the nodes that own a slot.
-/
namespace JsonSchema

/-- The constraints that nodes are compiled to, and the patterns that they use. -/
structure Compiler where
  engine : PatternEngine
  constraints : List Constraint := Constraint.builtin

namespace Compiler

/-- What has been compiled so far: the predicates of finished nodes, and the slots with their owners. -/
structure Progress where
  finished : List (SchemaId × Predicate) := []
  slots : List (SchemaId × Option Predicate) := []

abbrev Compiling (α : Type) := StateT Progress (Except CompileError) α

/-- The slot of a node, made where there is none. -/
def slotFor (id : SchemaId) : Compiling Predicate := do
  let progress ← get
  match progress.slots.findIdx? (·.1 == id) with
  | some index => pure (.slot index)
  | none => do
    set { progress with slots := progress.slots ++ [(id, none)] }
    pure (.slot progress.slots.length)

def finish (id : SchemaId) (predicate : Predicate) (progress : Progress) : Progress where
  finished := (id, predicate) :: progress.finished
  slots := progress.slots.map fun (owner, content) =>
    (owner, if owner = id then some predicate else content)

/-- The compiling of one node, as far as it can go without compiling the nodes that it refers to. -/
abbrev Assembly (α : Type) := Inquiry CompileError SchemaId Predicate α

def compileCheck (compiler : Compiler) (id : SchemaId) (node : SchemaNode) (constraint : Constraint) :
    Assembly (Option (Check Predicate)) := do
  match ← Inquiry.ofExcept (constraint compiler.engine id node) with
  | some check => do pure (some (← check.mapM Inquiry.answer))
  | none => pure none

def compileNode (compiler : Compiler) (id : SchemaId) (node : SchemaNode) : Assembly Predicate :=
  match node.valid with
  | some valid => pure (.constant valid)
  | none => do
    let checks ← compiler.constraints.mapM (compiler.compileCheck id node)
    pure (.all (checks.filterMap fun check => check))

/-- The nodes of a graph that are not on the way. -/
def offPath (graph : SchemaGraph) (path : List SchemaId) : List SchemaId := graph.ids.filter fun id => id ∉ path

/-- One round less is enough when one more node is on the way. -/
theorem offPath_cons_lt {graph : SchemaGraph} {path : List SchemaId} {id : SchemaId} {rounds : Nat}
    (found : (graph.get? id).isSome) (fresh : id ∉ path) (enough : (offPath graph path).length < rounds + 1) :
    (offPath graph (id :: path)).length < rounds := by
  have hid : id ∈ offPath graph path := by
    have h := SchemaGraph.get?_isSome_iff.1 found
    simp only [offPath, SchemaGraph.ids, List.mem_filter, List.mem_map, List.mem_range]
    exact ⟨⟨id.index, h, rfl⟩, by simpa using fresh⟩
  have hsplit : offPath graph (id :: path) = (offPath graph path).filter (fun other => other ≠ id) := by
    simp only [offPath, List.filter_filter]
    apply List.filter_congr
    intro other _
    simp [not_or]
  have hless : (offPath graph (id :: path)).length < (offPath graph path).length := by
    rw [hsplit]
    exact List.length_filter_lt_length_iff_exists.2 ⟨id, hid, by simp⟩
  omega

theorem offPath_nil_length (graph : SchemaGraph) : (offPath graph []).length = graph.size := by
  have all : graph.ids.filter (fun id => id ∉ ([] : List SchemaId)) = graph.ids :=
    List.filter_eq_self.2 (by simp)
  rw [offPath, all]
  simp [SchemaGraph.ids]

/-- The predicate of the node at a place, with the nodes on the way to it. The way grows with every round and has
each node of the graph at most once. -/
def visit (compiler : Compiler) (graph : SchemaGraph) :
    (rounds : Nat) → (path : List SchemaId) → (offPath graph path).length < rounds → SchemaId → Compiling Predicate
  | 0, _, h, _ => absurd h (Nat.not_lt_zero _)
  | rounds + 1, path, h, id => do
    match (← get).finished.lookup id with
    | some predicate => pure predicate
    | none =>
      if onWay : id ∈ path then slotFor id
      else if found : (graph.get? id).isSome then do
        let inner := compiler.visit graph rounds (id :: path) (offPath_cons_lt found onWay h)
        let predicate ← (compiler.compileNode id ((graph.get? id).get found)).run inner
        modify (finish id predicate)
        pure predicate
      else throw (.missingNode id)

def table (progress : Progress) : Except CompileError (List Predicate) :=
  progress.slots.mapM fun (owner, content) =>
    match content with
    | some predicate => .ok predicate
    | none => .error (.unfilledSlot owner)

def run (compiler : Compiler) (graph : SchemaGraph) (root : SchemaId) : Except CompileError (Predicate × Progress) :=
  (compiler.visit graph (graph.size + 1) [] (by rw [offPath_nil_length]; omega) root).run {}

def compile (compiler : Compiler) (schema : Schema) : Except CompileError Validator := do
  let (root, progress) ← compiler.run schema.graph schema.root
  let slots ← table progress
  pure ⟨schema, root, slots⟩

end Compiler

end JsonSchema
