import JsonSchema.Proofs.Grounded

/-!
Some of the keywords of a node. What they make of a value by themselves can be told apart from what the others make of
it: the node accepts a value exactly if these and the others do.
-/
namespace JsonSchema

/-- The schemas that the checks of some keywords on a node apply. -/
def Constraint.Applied (keywords : List Constraint) (engine : PatternEngine) (id : SchemaId) (node : SchemaNode)
    (schema : SchemaId) : Prop :=
  ∃ constraint ∈ keywords, ∃ check, constraint engine id node = .ok (some check) ∧ schema ∈ check.schemas

namespace Compiler

open SchemaGraph

variable {compiler : Compiler} {graph : SchemaGraph} {keywords others : List Constraint} {id other : SchemaId}
  {node : SchemaNode} {validator : Validator} {value : Json} {Meets : Prop}

def verdict? (compiler : Compiler) (schema : Schema) (value : Json) : Option Bool :=
  (compiler.compile schema).toOption.bind (·.isValid? value)

theorem verdict?_eq {schema : Schema} (h : compiler.compile schema = .ok validator) (value : Json) :
    compiler.verdict? schema value = validator.isValid? value := by
  rw [verdict?, h]
  rfl

/-- A node that a compiled one asks compiles too, so its verdict is what it makes of the value. -/
theorem verdict?_of_asks (hcompile : compiler.compile ⟨graph, id⟩ = .ok validator)
    (hasks : compiler.Asks graph id other) (value : Json) :
    compiler.verdict? ⟨graph, other⟩ value = graph.meaning? compiler.engine compiler.constraints other value := by
  obtain ⟨next, hnext⟩ : ∃ next, compiler.compile ⟨graph, other⟩ = .ok next :=
    exists_validator_iff.mpr fun _ hreach => (sound_of_asked hcompile (hreach.head hasks)).2
  rw [verdict?_eq hnext, isValid?_eq_meaning? hnext]

theorem verdict?_of_applied (hkeywords : ∀ constraint ∈ keywords, constraint ∈ compiler.constraints)
    (hcompile : compiler.compile ⟨graph, id⟩ = .ok validator) (hnode : graph.get? id = some node)
    (hvalid : node.valid = none) (happlied : Constraint.Applied keywords compiler.engine id node other) (value : Json) :
    compiler.verdict? ⟨graph, other⟩ value = graph.meaning? compiler.engine compiler.constraints other value := by
  obtain ⟨constraint, hmem, check, hcheck, hschema⟩ := happlied
  have hmade : check ∈ checksAt compiler.engine compiler.constraints id node :=
    mem_checksAt.mpr ⟨constraint, hkeywords constraint hmem, hcheck⟩
  exact verdict?_of_asks hcompile ⟨node, hnode, hvalid, check, hmade, hschema⟩ value

/-- What some constraints on a node make of a value, with what other nodes make of it and of its parts. -/
def verdictBy? (compiler : Compiler) (graph : SchemaGraph) (keywords : List Constraint) (id : SchemaId) (value : Json) :
    Option Bool :=
  (graph.get? id).bind fun node =>
    Check.runAll (graph.meaning? compiler.engine compiler.constraints) (checksAt compiler.engine keywords id node) value

theorem verdictBy?_eq_true_iff (hnode : graph.get? id = some node) :
    compiler.verdictBy? graph keywords id value = some true ↔
      ∀ constraint ∈ keywords, ∀ check, constraint compiler.engine id node = .ok (some check) →
        check.run (graph.meaning? compiler.engine compiler.constraints) value = some true := by
  rw [verdictBy?, hnode, Option.bind_some, Check.runAll, allM_eq_true_iff]
  simp only [mem_checksAt, forall_exists_index, and_imp]
  exact ⟨fun h constraint hmem check => h check constraint hmem, fun h check constraint hmem => h constraint hmem check⟩

theorem exists_verdictBy? (hnode : graph.get? id = some node)
    (h : ∀ constraint ∈ keywords, ∀ check, constraint compiler.engine id node = .ok (some check) →
      ∃ verdict, check.run (graph.meaning? compiler.engine compiler.constraints) value = some verdict) :
    ∃ verdict, compiler.verdictBy? graph keywords id value = some verdict := by
  rw [verdictBy?, hnode, Option.bind_some, Check.runAll]
  refine exists_allM_eq_some fun check hcheck => ?_
  obtain ⟨constraint, hmem, hmade⟩ := mem_checksAt.mp hcheck
  exact h constraint hmem check hmade

/-- A node accepts what some of its constraints accept and the others accept too. -/
theorem isValid?_eq_true_iff (hkeywords : ∀ constraint, constraint ∈ compiler.constraints ↔
      constraint ∈ keywords ∨ constraint ∈ others)
    (hcompile : compiler.compile ⟨graph, id⟩ = .ok validator) (hnode : graph.get? id = some node)
    (hvalid : node.valid = none) :
    validator.isValid? value = some true ↔ compiler.verdictBy? graph keywords id value = some true ∧
      compiler.verdictBy? graph others id value = some true := by
  have hall : validator.isValid? value = compiler.verdictBy? graph compiler.constraints id value := by
    rw [isValid?_eq_meaning? hcompile, meaning?_eq hnode hvalid, verdictBy?, hnode, Option.bind_some]
  rw [hall, verdictBy?_eq_true_iff hnode, verdictBy?_eq_true_iff hnode, verdictBy?_eq_true_iff hnode]
  simp only [hkeywords, or_imp, forall_and]

/-- Some keywords of a node come to a verdict on a value, which says whether it meets what they ask. -/
structure Decides (compiler : Compiler) (graph : SchemaGraph) (keywords : List Constraint) (id : SchemaId)
    (value : Json) (Meets : Prop) : Prop where
  ends : ∃ verdict, compiler.verdictBy? graph keywords id value = some verdict
  accepts_iff : compiler.verdictBy? graph keywords id value = some true ↔ Meets

theorem Decides.verdict (h : compiler.Decides graph keywords id value Meets) :
    ∃ verdict, compiler.verdictBy? graph keywords id value = some verdict ∧ (verdict = true ↔ Meets) := by
  obtain ⟨verdict, hverdict⟩ := h.ends
  exact ⟨verdict, hverdict, by rw [← h.accepts_iff, hverdict, Option.some.injEq]⟩

theorem Decides.isValid?_iff (h : compiler.Decides graph keywords id value Meets)
    (hkeywords : ∀ constraint, constraint ∈ compiler.constraints ↔ constraint ∈ keywords ∨ constraint ∈ others)
    (hcompile : compiler.compile ⟨graph, id⟩ = .ok validator) (hnode : graph.get? id = some node)
    (hvalid : node.valid = none) :
    validator.isValid? value = some true ↔ Meets ∧ compiler.verdictBy? graph others id value = some true := by
  rw [isValid?_eq_true_iff hkeywords hcompile hnode hvalid, h.accepts_iff]

end Compiler

end JsonSchema
