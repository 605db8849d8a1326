import JsonSchema.Proofs.Compilation
import Mathlib.Logic.Relation

/-!
What a build asks for and where it can fail. The body of a node asks for the schemas of its checks and for nothing else,
so a build stays with the nodes that the root leads to, and a fault of compiling is the fault of one of them.
-/
namespace JsonSchema

namespace SchemaGraph

variable {engine : PatternEngine} {id : SchemaId} {node : SchemaNode} {check : Check SchemaId}

theorem mem_checksAt {constraints : List Constraint} :
    check ∈ checksAt engine constraints id node ↔
      ∃ constraint ∈ constraints, constraint engine id node = .ok (some check) := by
  simp only [checksAt, List.mem_filterMap]
  refine exists_congr fun constraint => and_congr_right fun _ => ?_
  cases constraint engine id node with
  | error => simp [Except.toOption]
  | ok made => simp [Except.toOption]

end SchemaGraph

namespace Compiler

open SchemaGraph Progress

variable {compiler : Compiler} {graph : SchemaGraph} {rounds : Nat} {path : List SchemaId} {id other : SchemaId}
  {progress : Progress} {node : SchemaNode}

theorem asksOnly_schemas (check : Check SchemaId) :
    (check.mapM Inquiry.answer : Assembly (Check Predicate)).AsksOnly (· ∈ check.schemas) := by
  have hlist {asked : SchemaId → Prop} {ids : List SchemaId} (h : ∀ id ∈ ids, asked id) :
      (ids.mapM Inquiry.answer : Assembly (List Predicate)).AsksOnly asked :=
    Inquiry.asksOnly_mapM fun id hmem => Inquiry.asksOnly_answer (h id hmem)
  have hoption {asked : SchemaId → Prop} {id : Option SchemaId} (h : ∀ other ∈ id.toList, asked other) :
      (id.mapM Inquiry.answer : Assembly (Option Predicate)).AsksOnly asked := by
    cases id with
    | none => trivial
    | some id => exact Inquiry.asksOnly_bind (Inquiry.asksOnly_answer (h id (by simp))) fun _ => trivial
  have hone {asked : SchemaId → Prop} {id : SchemaId} {f : Predicate → Check Predicate} (h : asked id) :
      (do pure (f (← Inquiry.answer id)) : Assembly (Check Predicate)).AsksOnly asked :=
    Inquiry.asksOnly_bind (Inquiry.asksOnly_answer h) fun _ => trivial
  cases check with
  | test => trivial
  | allOf ids | anyOf ids | oneOf ids => exact Inquiry.asksOnly_bind (hlist fun _ hmem => hmem) fun _ => trivial
  | not id | every id | contains id | propertyNames id => exact hone (List.mem_singleton_self id)
  | conditional condition consequence alternative =>
    refine Inquiry.asksOnly_bind (Inquiry.asksOnly_answer (by simp [Check.schemas])) fun _ => ?_
    refine Inquiry.asksOnly_bind (hoption fun _ hmem => ?_) fun _ => ?_
    · simp only [Check.schemas, List.mem_append, List.mem_cons, hmem, or_true, true_or]
    · refine Inquiry.asksOnly_bind (hoption fun _ hmem => ?_) fun _ => trivial
      simp only [Check.schemas, List.mem_append, hmem, or_true]
  | tuple ids rest =>
    refine Inquiry.asksOnly_bind (hlist fun _ hmem => List.mem_append_left _ hmem) fun _ => ?_
    refine Inquiry.asksOnly_bind ?_ fun _ => trivial
    cases rest with
    | allowed => trivial
    | forbidden => trivial
    | schema id =>
      refine Inquiry.asksOnly_bind (Inquiry.asksOnly_answer ?_) fun _ => trivial
      simp [Check.schemas, Additional.schemas]
  | properties named | patternProperties named =>
    refine Inquiry.asksOnly_bind (Inquiry.asksOnly_mapM ?_) fun _ => trivial
    rintro ⟨name, id⟩ hmem
    refine Inquiry.asksOnly_bind (Inquiry.asksOnly_answer ?_) fun _ => trivial
    exact List.mem_map.mpr ⟨(name, id), hmem, rfl⟩
  | additionalProperties covered id => exact Inquiry.asksOnly_bind (hoption fun _ hmem => hmem) fun _ => trivial
  | dependencies byTrigger =>
    refine Inquiry.asksOnly_bind (Inquiry.asksOnly_mapM ?_) fun _ => trivial
    rintro ⟨name, dependency⟩ hmem
    refine Inquiry.asksOnly_bind ?_ fun _ => trivial
    cases dependency with
    | names others => trivial
    | schema id =>
      refine Inquiry.asksOnly_bind (Inquiry.asksOnly_answer ?_) fun _ => trivial
      exact List.mem_flatMap.mpr ⟨.schema id, List.mem_map.mpr ⟨_, hmem, rfl⟩, by simp [Dependency.schemas]⟩

theorem failsOnly_schemas {kind : CompileError → Prop} (check : Check SchemaId) :
    (check.mapM Inquiry.answer : Assembly (Check Predicate)).FailsOnly kind := by
  have hlist (ids : List SchemaId) : (ids.mapM Inquiry.answer : Assembly (List Predicate)).FailsOnly kind :=
    Inquiry.failsOnly_mapM fun _ _ => Inquiry.failsOnly_answer _
  have hoption (id : Option SchemaId) : (id.mapM Inquiry.answer : Assembly (Option Predicate)).FailsOnly kind := by
    cases id with
    | none => trivial
    | some id => exact Inquiry.failsOnly_bind (Inquiry.failsOnly_answer _) fun _ => trivial
  cases check with
  | test => trivial
  | allOf ids | anyOf ids | oneOf ids => exact Inquiry.failsOnly_bind (hlist ids) fun _ => trivial
  | not id | every id | contains id | propertyNames id => exact fun _ => trivial
  | conditional condition consequence alternative =>
    refine Inquiry.failsOnly_bind (Inquiry.failsOnly_answer condition) fun _ => ?_
    refine Inquiry.failsOnly_bind (hoption consequence) fun _ => ?_
    exact Inquiry.failsOnly_bind (hoption alternative) fun _ => trivial
  | tuple ids rest =>
    refine Inquiry.failsOnly_bind (hlist ids) fun _ => ?_
    refine Inquiry.failsOnly_bind ?_ fun _ => trivial
    cases rest with
    | schema id => exact fun _ => trivial
    | allowed | forbidden => trivial
  | properties named | patternProperties named =>
    refine Inquiry.failsOnly_bind (Inquiry.failsOnly_mapM ?_) fun _ => trivial
    exact fun _ _ _ => trivial
  | additionalProperties covered id => exact Inquiry.failsOnly_bind (hoption id) fun _ => trivial
  | dependencies byTrigger =>
    refine Inquiry.failsOnly_bind (Inquiry.failsOnly_mapM ?_) fun _ => trivial
    rintro ⟨name, dependency⟩ _
    refine Inquiry.failsOnly_bind ?_ fun _ => trivial
    cases dependency with
    | names others => trivial
    | schema id => exact fun _ => trivial

/-- A node leads a compiler to another one: a check that is made of it asks the other one. -/
def Asks (compiler : Compiler) (graph : SchemaGraph) (id other : SchemaId) : Prop :=
  ∃ node, graph.get? id = some node ∧ node.valid = none ∧
    ∃ check ∈ checksAt compiler.engine compiler.constraints id node, other ∈ check.schemas

theorem compileNode_asksOnly (hnode : graph.get? id = some node) :
    (compiler.compileNode id node).AsksOnly (compiler.Asks graph id) := by
  unfold compileNode
  cases hvalid : node.valid with
  | some valid => trivial
  | none =>
    refine Inquiry.asksOnly_bind (Inquiry.asksOnly_mapM fun constraint hmem => ?_) fun _ => trivial
    unfold compileCheck
    cases hcheck : constraint compiler.engine id node with
    | error error => trivial
    | ok made =>
      cases made with
      | none => trivial
      | some check =>
        have hasked : ∀ other ∈ check.schemas, compiler.Asks graph id other := fun other hother =>
          ⟨node, hnode, hvalid, check, mem_checksAt.mpr ⟨constraint, hmem, hcheck⟩, hother⟩
        change (check.mapM Inquiry.answer >>= fun check => pure (some check)).AsksOnly (compiler.Asks graph id)
        exact Inquiry.asksOnly_bind ((asksOnly_schemas check).mono hasked) fun _ => trivial

/-- A node at fault: it is not there, or it asks for something that cannot be checked. -/
def AtFault (compiler : Compiler) (graph : SchemaGraph) (id : SchemaId) (error : CompileError) : Prop :=
  (graph.get? id = none ∧ error = .missingNode id) ∨
    ∃ node, graph.get? id = some node ∧ node.valid = none ∧
      ∃ constraint ∈ compiler.constraints, constraint compiler.engine id node = .error error

theorem failsOnly_compileNode (hnode : graph.get? id = some node) :
    (compiler.compileNode id node).FailsOnly (AtFault compiler graph id) := by
  unfold compileNode
  cases hvalid : node.valid with
  | some valid => trivial
  | none =>
    refine Inquiry.failsOnly_bind (Inquiry.failsOnly_mapM fun constraint hmem => ?_) fun _ => trivial
    refine Inquiry.failsOnly_bind (Inquiry.failsOnly_ofExcept fun error herror => ?_) fun check => ?_
    · exact .inr ⟨node, hnode, hvalid, constraint, hmem, herror⟩
    · cases check with
      | none => trivial
      | some check => exact Inquiry.failsOnly_bind (failsOnly_schemas check) fun _ => trivial

/-- A visit that fails has come to a node at fault. -/
theorem visit_atFault (h : (offPath graph path).length < rounds) {error : CompileError}
    (hvisit : compiler.visit graph rounds path h id progress = .error error) :
    ∃ other, Relation.ReflTransGen (compiler.Asks graph) id other ∧ AtFault compiler graph other error := by
  induction rounds generalizing path id progress with
  | zero => exact absurd h (Nat.not_lt_zero _)
  | succ rounds ih =>
    obtain ⟨hnode, rfl⟩ | ⟨node, less, hless, hrounds, hnode, hrun⟩ := visit_error_cases hvisit
    · exact ⟨id, .refl, .inl ⟨hnode, rfl⟩⟩
    · obtain rfl : less = rounds := by omega
      obtain ⟨rest, last, hreach, rfl | ⟨question, next, rfl, hresp⟩⟩ := Inquiry.reaches_of_run_eq_error hrun
      · exact ⟨id, .refl, hreach.failsOnly (failsOnly_compileNode hnode)⟩
      · obtain ⟨hasks, _⟩ := hreach.asksOnly (compileNode_asksOnly hnode)
        obtain ⟨other, hother, hfault⟩ := ih hless hresp
        exact ⟨other, .head hasks hother, hfault⟩

/-- Compiling fails only at a node that the root leads the compiler to. -/
theorem exists_atFault_of_error {schema : Schema} {error : CompileError} (h : compiler.compile schema = .error error) :
    ∃ other, Relation.ReflTransGen (compiler.Asks schema.graph) schema.root other ∧
      AtFault compiler schema.graph other error := by
  unfold compile at h
  cases hrun : compiler.run schema.graph schema.root with
  | error other =>
    simp only [hrun, bind, Except.bind, Except.error.injEq] at h
    subst h
    exact visit_atFault _ hrun
  | ok result =>
    -- No slot is left empty, so there is always a table.
    obtain ⟨root, progress⟩ := result
    obtain ⟨slots, hslots, _⟩ := table_of_sound (run_sound hrun).1
    simp [hrun, hslots, bind, Except.bind, pure, Except.pure] at h

end Compiler

end JsonSchema
