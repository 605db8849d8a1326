import JsonSchema.Proofs.CycleCut
import JsonSchema.Proofs.Grounded

/-!
Compilers that have the same constraints. Their order decides in which order nodes are compiled, and so which nodes get
slots; a constraint that is listed again is checked again. What nodes ask of each other, which nodes are at fault and
what a node makes of a value in the end depend on which constraints there are, and on nothing else.
-/
namespace JsonSchema

namespace Compiler

open SchemaGraph

variable {first second : Compiler} {graph : SchemaGraph} {schema : Schema}

theorem asks_congr (hengine : first.engine = second.engine)
    (hsame : ∀ constraint, constraint ∈ first.constraints ↔ constraint ∈ second.constraints) :
    first.Asks graph = second.Asks graph := by
  funext id other
  simp only [Asks, mem_checksAt, hengine, hsame]

theorem atFault_congr (hengine : first.engine = second.engine)
    (hsame : ∀ constraint, constraint ∈ first.constraints ↔ constraint ∈ second.constraints) :
    AtFault first graph = AtFault second graph := by
  funext id error
  simp only [AtFault, hengine, hsame]

theorem exists_validator_congr (hengine : first.engine = second.engine)
    (hsame : ∀ constraint, constraint ∈ first.constraints ↔ constraint ∈ second.constraints) :
    (∃ validator, first.compile schema = .ok validator) ↔ ∃ other, second.compile schema = .ok other := by
  rw [exists_validator_iff, exists_validator_iff, asks_congr hengine hsame, atFault_congr hengine hsame]

/-- Constraints ask no nodes but those that are followed, however few of the usual ones there are. -/
theorem Asks.follows {compiler : Compiler} {id other : SchemaId}
    (hbuiltin : ∀ constraint ∈ compiler.constraints, constraint ∈ Constraint.builtin)
    (h : compiler.Asks graph id other) : graph.Follows id other := by
  obtain ⟨node, hnode, hvalid, check, hcheck, hother⟩ := h
  have hmade : check ∈ checksAt compiler.engine Constraint.builtin id node := checksAt_subset hbuiltin hcheck
  have hasks : Asks ⟨compiler.engine, Constraint.builtin⟩ graph id other := ⟨node, hnode, hvalid, check, hmade, hother⟩
  rwa [asks_eq_follows rfl] at hasks

/-- Only which constraints a compiler has matters. If each constraint of one compiler is one of the other, wherever and
however often they list it, the same schemas compile; and where no node that the root leads to is led back to itself
about the same value, the two validators come to the same verdict on every value. -/
theorem isValid?_same_constraints (hengine : first.engine = second.engine)
    (hbuiltin : ∀ constraint ∈ first.constraints, constraint ∈ Constraint.builtin)
    (hsame : ∀ constraint, constraint ∈ first.constraints ↔ constraint ∈ second.constraints)
    (hacyclic : ∀ id, schema.graph.Reachable schema.root id → ¬Relation.TransGen schema.graph.StaysAt id id) :
    ((∃ validator, first.compile schema = .ok validator) ↔ ∃ other, second.compile schema = .ok other) ∧
      ∀ validator other, first.compile schema = .ok validator → second.compile schema = .ok other →
        ∀ value, ∃ verdict, validator.isValid? value = some verdict ∧ other.isValid? value = some verdict := by
  refine ⟨exists_validator_congr hengine hsame, fun validator other hvalidator hother value => ?_⟩
  let reached (id : SchemaId) : Prop := Relation.ReflTransGen (first.Asks schema.graph) schema.root id
  have hgrounded : schema.graph.GroundedOn reached := by
    refine ⟨fun id hreach => (sound_of_asked hvalidator hreach).1, fun id hreach => hacyclic id ?_⟩
    exact Relation.ReflTransGen.mono (fun _ _ => Asks.follows hbuiltin) _ _ hreach
  rw [isValid?_eq_meaning? hvalidator, isValid?_eq_meaning? hother, ← hengine]
  apply hgrounded.agreeing hbuiltin hsame (fun id other hreach => hreach.tail) Json.likeness_eq
  · rintro id node _ _ _ accepts _ a _ rfl
    rfl
  · exact .refl
  · rfl

def rowsOrRecords : Schema where
  graph := ⟨#[{ items := some (.every ⟨1⟩), properties := [("entry", ⟨2⟩)] },
    { properties := [("entry", ⟨2⟩)], types := some (.only .object) },
    { items := some (.every ⟨1⟩), types := some (.only .array) }]⟩
  root := ⟨0⟩

theorem isValid?_same_constraints_rowsOrRecords :
    let first : Compiler := ⟨fun _ => none, [.items, .properties, .type]⟩
    let second : Compiler := ⟨fun _ => none, [.properties, .type, .properties, .items]⟩
    first.slotOwners rowsOrRecords = [⟨1⟩] ∧ second.slotOwners rowsOrRecords = [⟨2⟩] ∧
    ∃ validator other, first.compile rowsOrRecords = .ok validator ∧ second.compile rowsOrRecords = .ok other ∧
      ∀ value, ∃ verdict, validator.isValid? value = some verdict ∧ other.isValid? value = some verdict := by
  intro first second
  have hbuiltin : ∀ constraint ∈ first.constraints, constraint ∈ Constraint.builtin := by
    intro constraint hmem
    simp only [first, List.mem_cons, List.not_mem_nil, or_false] at hmem
    rcases hmem with rfl | rfl | rfl <;> simp [Constraint.builtin]
  have hsame (constraint : Constraint) : constraint ∈ first.constraints ↔ constraint ∈ second.constraints := by
    simp only [first, second, List.mem_cons, List.not_mem_nil]
    tauto
  have hnone (id other : SchemaId) : ¬rowsOrRecords.graph.StaysAt id other := by
    rintro ⟨node, hnode, _, hmem⟩
    obtain ⟨_ | _ | _ | _⟩ := id <;> cases hnode <;> cases hmem
  have hacyclic (id : SchemaId) : ¬Relation.TransGen rowsOrRecords.graph.StaysAt id id := by
    intro hcycle
    obtain ⟨other, hstays, _⟩ := Relation.TransGen.head'_iff.mp hcycle
    exact hnone id other hstays
  obtain ⟨hiff, hagree⟩ :=
    @isValid?_same_constraints first second rowsOrRecords rfl hbuiltin hsame fun id _ => hacyclic id
  obtain ⟨validator, hvalidator⟩ : ∃ validator, first.compile rowsOrRecords = .ok validator := ⟨_, rfl⟩
  obtain ⟨other, hother⟩ := hiff.mp ⟨validator, hvalidator⟩
  exact ⟨by decide, by decide, validator, other, hvalidator, hother, hagree validator other hvalidator hother⟩

end Compiler

end JsonSchema
