import JsonSchema.Engine
import JsonSchema.Proofs.Compilation

/-!
What has no say. Annotations, everything beside a boolean, branches without a condition, further elements without
positions, strictness without a bound: a compiler never looks at them, nor does it follow their links. Graphs whose
nodes differ in nothing else compile alike, to the same predicates and the same slots.
-/
namespace JsonSchema

namespace SchemaNode

/-- A node that is no boolean, without what has no say. Of the draft it keeps whether integers are read strictly. -/
def stripped (node : SchemaNode) : SchemaNode :=
  { node with
    consequence := node.condition.bind fun _ => node.consequence
    alternative := node.condition.bind fun _ => node.alternative
    exclusiveMinimum := node.minimum.isSome && node.exclusiveMinimum
    exclusiveMaximum := node.maximum.isSome && node.exclusiveMaximum
    additionalItems :=
      match node.items with
      | some (.tuple _) => node.additionalItems
      | _ => .allowed
    title := none
    description := none
    format := none
    default := none
    readOnly := none
    writeOnly := none
    extensions := []
    version := if node.strictIntegers then some Draft.draft4.uri else none
    id := none }

/-- What a node says: its boolean if it is one, otherwise all that has a say. -/
def effective (node : SchemaNode) : SchemaNode :=
  match node.valid with
  | some valid => boolean valid
  | none => node.stripped

theorem strictIntegers_of_draft4 : ({ version := some Draft.draft4.uri } : SchemaNode).strictIntegers = true := by
  decide +kernel

@[simp] theorem strictIntegers_stripped (node : SchemaNode) : node.stripped.strictIntegers = node.strictIntegers := by
  rw [strictIntegers, draft, stripped]
  cases node.strictIntegers with
  | true => exact strictIntegers_of_draft4
  | false => rfl

end SchemaNode

namespace Constraint

variable (engine : PatternEngine) (id : SchemaId) (node : SchemaNode)

theorem conditional_stripped : conditional engine id node.stripped = conditional engine id node := by
  unfold conditional SchemaNode.stripped
  cases node.condition <;> rfl

theorem type_stripped : type engine id node.stripped = type engine id node := by
  unfold type
  rw [SchemaNode.strictIntegers_stripped]
  rfl

theorem minimum_stripped : minimum engine id node.stripped = minimum engine id node := by
  unfold minimum SchemaNode.stripped
  cases node.minimum <;> rfl

theorem maximum_stripped : maximum engine id node.stripped = maximum engine id node := by
  unfold maximum SchemaNode.stripped
  cases node.maximum <;> rfl

theorem items_stripped : items engine id node.stripped = items engine id node := by
  unfold items SchemaNode.stripped
  rcases node.items with _ | _ | _ <;> rfl

/-- No constraint looks at what has no say. Most of them do not even look at a part that `stripped` touches. -/
theorem stripped_eq {constraint : Constraint} (hmem : constraint ∈ builtin) :
    constraint engine id node.stripped = constraint engine id node := by
  simp only [builtin, List.mem_cons, List.not_mem_nil, or_false] at hmem
  rcases hmem with rfl | rfl | rfl | rfl | rfl | rfl | rfl | rfl | rfl | rfl | rfl | rfl | rfl | rfl | rfl | rfl |
    rfl | rfl | rfl | rfl | rfl | rfl | rfl | rfl | rfl
  -- Branches, types, bounds and items look at such parts, but only where they have a say.
  all_goals
    first
    | exact conditional_stripped engine id node
    | exact type_stripped engine id node
    | exact minimum_stripped engine id node
    | exact maximum_stripped engine id node
    | exact items_stripped engine id node
    | rfl

end Constraint

namespace Compiler

variable {compiler : Compiler} {graph graph' : SchemaGraph} {id : SchemaId} {node node' : SchemaNode}

theorem mapM_compileCheck_stripped (id : SchemaId) (node : SchemaNode) {constraints : List Constraint}
    (hbuiltin : ∀ constraint ∈ constraints, constraint ∈ Constraint.builtin) :
    constraints.mapM (compiler.compileCheck id node.stripped) = constraints.mapM (compiler.compileCheck id node) := by
  induction constraints with
  | nil => rfl
  | cons constraint rest ih =>
    obtain ⟨hmem, hrest⟩ := List.forall_mem_cons.mp hbuiltin
    have hcheck : compiler.compileCheck id node.stripped constraint = compiler.compileCheck id node constraint := by
      rw [compileCheck, compileCheck, Constraint.stripped_eq _ _ _ hmem]
    rw [List.mapM_cons, List.mapM_cons, hcheck, ih hrest]

theorem compileNode_effective (hbuiltin : ∀ constraint ∈ compiler.constraints, constraint ∈ Constraint.builtin)
    (id : SchemaId) (node : SchemaNode) : compiler.compileNode id node.effective = compiler.compileNode id node := by
  cases hvalid : node.valid with
  | some valid => simp only [compileNode, SchemaNode.effective, hvalid, SchemaNode.boolean]
  | none =>
    have hstripped : node.stripped.valid = none := hvalid
    simp only [compileNode, SchemaNode.effective, hvalid, hstripped, mapM_compileCheck_stripped id node hbuiltin]

theorem isSome_get?_congr (hsize : graph.size = graph'.size) (id : SchemaId) :
    (graph.get? id).isSome = (graph'.get? id).isSome := by
  rw [Bool.eq_iff_iff, SchemaGraph.get?_isSome_iff, SchemaGraph.get?_isSome_iff, hsize]

theorem visit_congr (hsize : graph.size = graph'.size)
    (hnodes : ∀ id node node', graph.get? id = some node → graph'.get? id = some node' →
      compiler.compileNode id node = compiler.compileNode id node')
    {rounds rounds' : Nat} (hrounds : rounds = rounds') (path : List SchemaId)
    (h : (offPath graph path).length < rounds) (h' : (offPath graph' path).length < rounds') :
    compiler.visit graph rounds path h = compiler.visit graph' rounds' path h' := by
  subst hrounds
  induction rounds generalizing path with
  | zero => exact absurd h (Nat.not_lt_zero _)
  | succ rounds ih =>
    funext id progress
    rw [visit_eq h, visit_eq h']
    split
    · rfl
    · split
      · rfl
      · rename_i onWay
        have hsome := isSome_get?_congr hsize id
        by_cases found : (graph.get? id).isSome
        · have found' : (graph'.get? id).isSome := hsome ▸ found
          have hnode := hnodes id _ _ (Option.some_get found).symm (Option.some_get found').symm
          have hless := offPath_cons_lt found onWay h
          have hless' := offPath_cons_lt found' onWay h'
          simp only [dif_pos found, dif_pos found', hnode, ih (id :: path) hless hless']
        · have found' : ¬(graph'.get? id).isSome := hsome ▸ found
          rw [dif_neg found, dif_neg found']

theorem run_congr (hsize : graph.size = graph'.size)
    (hnodes : ∀ id node node', graph.get? id = some node → graph'.get? id = some node' →
      compiler.compileNode id node = compiler.compileNode id node')
    (root : SchemaId) : compiler.run graph root = compiler.run graph' root := by
  rw [run, run, visit_congr hsize hnodes (congrArg (· + 1) hsize)]

/-- Where two graphs agree in what has a say, compiling them takes the same course: it fails with the same error, or it
makes validators that have the same slots and come to the same verdict on every value in the same number of steps, if
they come to one at all. -/
theorem compile_alike (hbuiltin : ∀ constraint ∈ compiler.constraints, constraint ∈ Constraint.builtin)
    (hsize : graph.size = graph'.size)
    (hnodes : ∀ id node node', graph.get? id = some node → graph'.get? id = some node' →
      node.effective = node'.effective)
    (root : SchemaId) :
    (∃ error, compiler.compile ⟨graph, root⟩ = .error error ∧ compiler.compile ⟨graph', root⟩ = .error error) ∨
      ∃ validator validator', compiler.compile ⟨graph, root⟩ = .ok validator ∧
        compiler.compile ⟨graph', root⟩ = .ok validator' ∧ validator.slotCount = validator'.slotCount ∧
        ∀ value, validator.isValid? value = validator'.isValid? value ∧
          ∀ steps, validator.root.fits validator.slots steps value =
            validator'.root.fits validator'.slots steps value := by
  have hrun : compiler.run graph root = compiler.run graph' root := by
    refine run_congr hsize (fun id node node' hnode hnode' => ?_) root
    rw [← compileNode_effective hbuiltin, hnodes id node node' hnode hnode', compileNode_effective hbuiltin]
  simp only [compile, hrun]
  cases compiler.run graph' root with
  | error error => exact .inl ⟨error, rfl, rfl⟩
  | ok result =>
    obtain ⟨predicate, progress⟩ := result
    cases htable : table progress with
    | error error => exact .inl ⟨error, by simp [htable, bind, Except.bind], by simp [htable, bind, Except.bind]⟩
    | ok slots =>
      refine .inr ⟨⟨⟨graph, root⟩, predicate, slots⟩, ⟨⟨graph', root⟩, predicate, slots⟩, ?_, ?_, rfl, fun value => ?_⟩
      · simp [htable, bind, Except.bind, pure, Except.pure]
      · simp [htable, bind, Except.bind, pure, Except.pure]
      · simp only [Validator.isValid?, Validator.steps, hsize, implies_true, and_self]

def chainedLists : SchemaGraph where
  nodes := #[{ properties := [("next", ⟨0⟩), ("list", ⟨1⟩)] }, { items := some (.every ⟨2⟩) },
    { types := some (.only .integer), version := some Draft.draft3.uri }, .boolean true]

/-- The same lists with annotations, and with links to missing nodes where no link is followed. -/
def annotatedLists : SchemaGraph where
  nodes := #[{ properties := [("next", ⟨0⟩), ("list", ⟨1⟩)], title := some "chain", consequence := some ⟨8⟩ },
    { items := some (.every ⟨2⟩), additionalItems := .schema ⟨9⟩, exclusiveMaximum := true },
    { types := some (.only .integer), version := some Draft.draft4.uri, format := some "int64" },
    { valid := some true, not := some ⟨9⟩, mediaType := some "image/png" }]

theorem compile_alike_annotatedLists :
    ∃ validator validator', (ofOptions {}).compile ⟨chainedLists, ⟨0⟩⟩ = .ok validator ∧
      (ofOptions {}).compile ⟨annotatedLists, ⟨0⟩⟩ = .ok validator' ∧ validator.slotCount = validator'.slotCount ∧
      ∀ value, validator.isValid? value = validator'.isValid? value := by
  have hnodes (id : SchemaId) (node node' : SchemaNode) (hnode : chainedLists.get? id = some node)
      (hnode' : annotatedLists.get? id = some node') : node.effective = node'.effective := by
    have hstrict : ({ version := some Draft.draft3.uri } : SchemaNode).strictIntegers = true := by decide +kernel
    obtain ⟨_ | _ | _ | _ | _⟩ := id <;> cases hnode <;> cases hnode'
    · rfl
    · rfl
    · have hsame := hstrict.trans SchemaNode.strictIntegers_of_draft4.symm
      simp only [SchemaNode.strictIntegers, SchemaNode.draft, Option.bind_some] at hsame
      simp [chainedLists, annotatedLists, SchemaNode.effective, SchemaNode.stripped, SchemaNode.strictIntegers,
        SchemaNode.draft, hsame]
    · rfl
  rcases @compile_alike (ofOptions {}) chainedLists annotatedLists (fun _ hmem => hmem) rfl hnodes ⟨0⟩ with
    ⟨error, herror, _⟩ | ⟨validator, validator', hcompile, hcompile', hcount, hverdicts⟩
  · cases herror
  · exact ⟨validator, validator', hcompile, hcompile', hcount, fun value => (hverdicts value).1⟩

end Compiler

end JsonSchema
