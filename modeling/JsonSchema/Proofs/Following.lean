import JsonSchema.Proofs.SlotSafety
import Mathlib.Logic.Relation

/-!
The links that are followed. Not every link of a node counts: a boolean schema has none, branches count beside a
condition and further elements after positions. The nodes that are compiled are those that the root leads to along such
links, and a fault of compiling is the fault of one of them.
-/
namespace JsonSchema

namespace SchemaNode

/-- The nodes that are asked about the value itself. -/
def inPlace (node : SchemaNode) : List SchemaId :=
  node.allOf.getD [] ++ node.anyOf.getD [] ++ node.oneOf.getD [] ++ node.not.toList ++
    (match node.condition with
      | some condition => condition :: node.consequence.toList ++ node.alternative.toList
      | none => []) ++
    (Members.values node.dependencies).flatMap Dependency.schemas

/-- The nodes that are asked about parts of the value. -/
def onward (node : SchemaNode) : List SchemaId :=
  (match node.items with
    | some (.every schema) => [schema]
    | some (.tuple schemas) => schemas ++ node.additionalItems.schemas
    | none => []) ++
    node.contains.toList ++ Members.values node.properties ++ Members.values node.patternProperties ++
    node.additionalProperties.schemas ++ node.propertyNames.toList

def followed (node : SchemaNode) : List SchemaId := node.inPlace ++ node.onward

theorem followed_subset_children (node : SchemaNode) : node.followed ⊆ node.children := by
  intro id h
  have hmore {more : Additional SchemaId} (hmem : id ∈ more.schemas) : more = .schema id := by
    cases more with
    | schema only => exact congrArg _ (List.mem_singleton.mp hmem).symm
    | allowed => cases hmem
    | forbidden => cases hmem
  have hdependency {dependency : Dependency SchemaId} (hmem : id ∈ dependency.schemas) : dependency = .schema id := by
    cases dependency with
    | schema only => exact congrArg _ (List.mem_singleton.mp hmem).symm
    | names => cases hmem
  simp only [followed, inPlace, onward, List.mem_append, Option.mem_toList, List.mem_flatMap] at h
  simp only [children, List.mem_append, List.mem_filterMap]
  rcases h with (((((h | h) | h) | h) | h) | ⟨_, h, hid⟩) | (((((h | h) | h) | h) | h) | h)
  · simp [h]
  · simp [h]
  · simp [h]
  · simp [h]
  · split at h
    · rename_i condition hcondition
      simp only [List.mem_append, List.mem_cons, Option.mem_toList] at h
      rcases h with (rfl | h) | h
      · simp [hcondition]
      · simp [h]
      · simp [h]
    · cases h
  · exact .inr ⟨_, h, by rw [hdependency hid]⟩
  · cases hitems : node.items with
    | none => simp [hitems] at h
    | some items =>
      cases items with
      | every only => simp_all
      | tuple ids =>
        rw [hitems] at h
        rcases List.mem_append.mp h with h | h
        · simp [h]
        · simp [hmore h]
  · simp [h]
  · simp [h]
  · simp [h]
  · simp [hmore h]
  · simp [h]

end SchemaNode

namespace SchemaGraph

/-- A node leads to another one, whatever value it is asked about. -/
def Follows (graph : SchemaGraph) (id other : SchemaId) : Prop :=
  ∃ node, graph.get? id = some node ∧ node.valid = none ∧ other ∈ node.followed

/-- A node asks another one about the same value. -/
def StaysAt (graph : SchemaGraph) (id other : SchemaId) : Prop :=
  ∃ node, graph.get? id = some node ∧ node.valid = none ∧ other ∈ node.inPlace

abbrev Reachable (graph : SchemaGraph) : SchemaId → SchemaId → Prop := Relation.ReflTransGen graph.Follows

end SchemaGraph

namespace Constraint

variable {constraint : Constraint}

/-- The constraints that ask no other node. -/
def tests : List Constraint :=
  [const, enum, type, minimum, maximum, multipleOf, length, pattern, content, itemCount, uniqueItems, required,
    propertyCount]

/-- The constraints that ask other nodes about the value itself. -/
def inPlace : List Constraint := [allOf, anyOf, oneOf, not, conditional, dependencies]

/-- The constraints that ask other nodes about parts of the value. -/
def onward : List Constraint := [items, contains, properties, patternProperties, additionalProperties, propertyNames]

theorem mem_builtin_iff : constraint ∈ builtin ↔ constraint ∈ tests ∨ constraint ∈ inPlace ∨ constraint ∈ onward := by
  simp only [builtin, tests, inPlace, onward, List.mem_cons, List.not_mem_nil, or_false]
  exact Iff.of_eq (by ac_rfl)

variable {engine : PatternEngine} {id : SchemaId} {node : SchemaNode} {check : Check SchemaId}

theorem exists_of_map {α : Type} {value : Option α} {f : α → Check SchemaId}
    (h : (.ok (value.map f) : Except CompileError _) = .ok (some check)) : ∃ a, value = some a ∧ f a = check :=
  Option.map_eq_some_iff.mp (Except.ok.inj h)

theorem eq_of_ite {absent : Bool} {other : Check SchemaId}
    (h : (.ok (if absent then none else some other) : Except CompileError _) = .ok (some check)) : check = other := by
  split at h <;> cases h
  rfl

theorem schemas_eq_nil (hmem : constraint ∈ tests) (h : constraint engine id node = .ok (some check)) :
    check.schemas = [] := by
  have hmap {α : Type} {value : Option α} {f : α → Json → Bool}
      (hcheck : (.ok (value.map fun a => .test (f a)) : Except CompileError _) = .ok (some check)) :
      check.schemas = [] := by
    obtain ⟨_, _, rfl⟩ := exists_of_map hcheck
    rfl
  have hif {absent : Bool} {accepts : Json → Bool}
      (hcheck : (.ok (if absent then none else some (.test accepts)) : Except CompileError _) = .ok (some check)) :
      check.schemas = [] := by
    obtain rfl := eq_of_ite hcheck
    rfl
  simp only [tests, List.mem_cons, List.not_mem_nil, or_false] at hmem
  rcases hmem with rfl | rfl | rfl | rfl | rfl | rfl | rfl | rfl | rfl | rfl | rfl | rfl | rfl
  · exact hmap h
  · exact hmap h
  · exact hmap h
  · exact hmap h
  · exact hmap h
  · exact hmap h
  · exact hif h
  · exact hmap h
  · -- content
    unfold content at h
    repeat' split at h
    all_goals cases h
    all_goals rfl
  · exact hif h
  · -- uniqueItems
    unfold uniqueItems at h
    split at h <;> cases h
    rfl
  · exact hif h
  · exact hif h

theorem mem_inPlace_of_mem_schemas (hmem : constraint ∈ inPlace) (hcheck : constraint engine id node = .ok (some check))
    {other : SchemaId} (h : other ∈ check.schemas) : check.movesOn = false ∧ other ∈ node.inPlace := by
  simp only [inPlace, List.mem_cons, List.not_mem_nil, or_false] at hmem
  rcases hmem with rfl | rfl | rfl | rfl | rfl | rfl
  · obtain ⟨ids, heq, rfl⟩ := exists_of_map hcheck
    have hids : other ∈ ids := h
    simp [Check.movesOn, SchemaNode.inPlace, heq, hids]
  · obtain ⟨ids, heq, rfl⟩ := exists_of_map hcheck
    have hids : other ∈ ids := h
    simp [Check.movesOn, SchemaNode.inPlace, heq, hids]
  · obtain ⟨ids, heq, rfl⟩ := exists_of_map hcheck
    have hids : other ∈ ids := h
    simp [Check.movesOn, SchemaNode.inPlace, heq, hids]
  · obtain ⟨only, heq, rfl⟩ := exists_of_map hcheck
    obtain rfl := List.mem_singleton.mp h
    simp [Check.movesOn, SchemaNode.inPlace, heq]
  · obtain ⟨condition, heq, rfl⟩ := exists_of_map hcheck
    have hids : other ∈ condition :: node.consequence.toList ++ node.alternative.toList := h
    simp only [Check.movesOn, SchemaNode.inPlace, heq, List.mem_append, hids, true_or, or_true, and_self]
  · obtain rfl := eq_of_ite hcheck
    have hids : other ∈ (Members.values node.dependencies).flatMap Dependency.schemas := h
    simp only [Check.movesOn, SchemaNode.inPlace, List.mem_append, hids, or_true, and_self]

theorem mem_onward_of_mem_schemas (hmem : constraint ∈ onward) (hcheck : constraint engine id node = .ok (some check))
    {other : SchemaId} (h : other ∈ check.schemas) : check.movesOn = true ∧ other ∈ node.onward := by
  simp only [onward, List.mem_cons, List.not_mem_nil, or_false] at hmem
  rcases hmem with rfl | rfl | rfl | rfl | rfl | rfl
  · obtain ⟨items, heq, rfl⟩ := exists_of_map hcheck
    cases items with
    | every only =>
      obtain rfl := List.mem_singleton.mp h
      simp [Check.movesOn, SchemaNode.onward, heq]
    | tuple ids =>
      have hids : other ∈ ids ++ node.additionalItems.schemas := h
      simp only [Check.movesOn, SchemaNode.onward, heq, List.mem_append] at hids ⊢
      simp [hids]
  · obtain ⟨only, heq, rfl⟩ := exists_of_map hcheck
    obtain rfl := List.mem_singleton.mp h
    simp [Check.movesOn, SchemaNode.onward, heq]
  · obtain rfl := eq_of_ite hcheck
    have hids : other ∈ Members.values node.properties := h
    simp [Check.movesOn, SchemaNode.onward, hids]
  · obtain rfl := eq_of_ite hcheck
    have hids : other ∈ Members.values node.patternProperties := by simpa [Check.schemas, Members.values] using h
    simp [Check.movesOn, SchemaNode.onward, hids]
  · unfold additionalProperties at hcheck
    split at hcheck <;> cases hcheck
    · cases h
    · have hids : other ∈ node.additionalProperties.schemas := by
        simpa [Check.schemas, Additional.schemas, *] using h
      simp [Check.movesOn, SchemaNode.onward, hids]
  · obtain ⟨only, heq, rfl⟩ := exists_of_map hcheck
    obtain rfl := List.mem_singleton.mp h
    simp [Check.movesOn, SchemaNode.onward, heq]

end Constraint

namespace SchemaGraph

open Constraint

variable {engine : PatternEngine} {id other : SchemaId} {node : SchemaNode} {check : Check SchemaId}

theorem checksAt_subset {constraints others : List Constraint} (h : ∀ constraint ∈ constraints, constraint ∈ others) :
    checksAt engine constraints id node ⊆ checksAt engine others id node := by
  intro check hcheck
  obtain ⟨constraint, hmem, hmade⟩ := mem_checksAt.mp hcheck
  exact mem_checksAt.mpr ⟨constraint, h constraint hmem, hmade⟩

/-- A check asks nodes about the value itself or about its parts, and the node leads to them. -/
theorem mem_of_mem_schemas (hcheck : check ∈ checksAt engine builtin id node) (h : other ∈ check.schemas) :
    if check.movesOn then other ∈ node.onward else other ∈ node.inPlace := by
  obtain ⟨constraint, hmem, hcheck⟩ := mem_checksAt.mp hcheck
  rcases mem_builtin_iff.mp hmem with htest | hplace | honward
  · rw [schemas_eq_nil htest hcheck] at h
    cases h
  · obtain ⟨hmoves, hother⟩ := mem_inPlace_of_mem_schemas hplace hcheck h
    rwa [hmoves]
  · obtain ⟨hmoves, hother⟩ := mem_onward_of_mem_schemas honward hcheck h
    rwa [hmoves]

theorem exists_check (constraint : Constraint) (check : Check SchemaId) (hmem : constraint ∈ builtin)
    (hcheck : constraint engine id node = .ok (some check)) (hother : other ∈ check.schemas) :
    ∃ check ∈ checksAt engine builtin id node, other ∈ check.schemas :=
  ⟨check, mem_checksAt.mpr ⟨constraint, hmem, hcheck⟩, hother⟩

theorem isEmpty_eq_false {α : Type} {members : Members α} {a : α} (h : a ∈ Members.values members) :
    members.isEmpty = false := by
  cases members with
  | nil => cases h
  | cons => rfl

theorem exists_check_of_mem_inPlace (h : other ∈ node.inPlace) :
    ∃ check ∈ checksAt engine builtin id node, other ∈ check.schemas := by
  have hsome {value : Option (List SchemaId)} (hmem : other ∈ value.getD []) :
      ∃ ids, value = some ids ∧ other ∈ ids := by
    cases value with
    | none => cases hmem
    | some ids => exact ⟨ids, rfl, hmem⟩
  simp only [SchemaNode.inPlace, List.mem_append, Option.mem_toList] at h
  rcases h with ((((h | h) | h) | h) | h) | h
  · obtain ⟨ids, heq, hids⟩ := hsome h
    exact exists_check allOf (.allOf ids) (by simp [builtin]) (by rw [allOf, heq]; rfl) hids
  · obtain ⟨ids, heq, hids⟩ := hsome h
    exact exists_check anyOf (.anyOf ids) (by simp [builtin]) (by rw [anyOf, heq]; rfl) hids
  · obtain ⟨ids, heq, hids⟩ := hsome h
    exact exists_check oneOf (.oneOf ids) (by simp [builtin]) (by rw [oneOf, heq]; rfl) hids
  · exact exists_check Constraint.not (.not other) (by simp [builtin]) (by rw [Constraint.not, h]; rfl)
      (List.mem_singleton_self other)
  · split at h
    · rename_i condition heq
      refine exists_check conditional (.conditional condition node.consequence node.alternative) (by simp [builtin]) ?_
        h
      rw [conditional, heq]
      rfl
    · cases h
  · obtain ⟨dependency, hmem, _⟩ := List.mem_flatMap.mp h
    refine exists_check dependencies (.dependencies node.dependencies) (by simp [builtin]) ?_ h
    rw [dependencies, isEmpty_eq_false hmem]
    rfl

theorem exists_check_of_mem_onward (h : other ∈ node.onward) :
    ∃ check ∈ checksAt engine builtin id node, other ∈ check.schemas := by
  simp only [SchemaNode.onward, List.mem_append, Option.mem_toList] at h
  rcases h with ((((h | h) | h) | h) | h) | h
  · split at h
    · rename_i only heq
      exact exists_check items (.every only) (by simp [builtin]) (by rw [items, heq]; rfl) h
    · rename_i ids heq
      exact exists_check items (.tuple ids node.additionalItems) (by simp [builtin]) (by rw [items, heq]; rfl) h
    · cases h
  · exact exists_check contains (.contains other) (by simp [builtin]) (by rw [contains, h]; rfl)
      (List.mem_singleton_self other)
  · refine exists_check properties (.properties node.properties) (by simp [builtin]) ?_ h
    rw [properties, isEmpty_eq_false h]
    rfl
  · refine exists_check patternProperties (.patternProperties (node.patternProperties.map fun entry =>
      (engine entry.1, entry.2))) (by simp [builtin]) ?_ ?_
    · rw [patternProperties, isEmpty_eq_false h]
      rfl
    · simpa [Check.schemas, Members.values] using h
  · cases hmore : node.additionalProperties with
    | allowed =>
      rw [hmore] at h
      cases h
    | forbidden =>
      rw [hmore] at h
      cases h
    | schema only =>
      rw [hmore] at h
      let covered := isCovered (Members.names node.properties) ((Members.names node.patternProperties).filterMap engine)
      refine exists_check additionalProperties (.additionalProperties covered (some only)) (by simp [builtin]) ?_ h
      rw [additionalProperties, hmore]
  · exact exists_check propertyNames (.propertyNames other) (by simp [builtin]) (by rw [propertyNames, h]; rfl)
      (List.mem_singleton_self other)

theorem exists_check_of_followed (h : other ∈ node.followed) :
    ∃ check ∈ checksAt engine builtin id node, other ∈ check.schemas := by
  rcases List.mem_append.mp h with h | h
  · exact exists_check_of_mem_inPlace h
  · exact exists_check_of_mem_onward h

end SchemaGraph

namespace Compiler

open SchemaGraph Progress

variable {compiler : Compiler} {graph : SchemaGraph} {id other : SchemaId}
  {progress : Progress} {node : SchemaNode}

/-- The usual constraints ask the nodes that are followed, and no others. -/
theorem asks_eq_follows (hbuiltin : compiler.constraints = Constraint.builtin) :
    compiler.Asks graph = graph.Follows := by
  funext id other
  refine propext (exists_congr fun node => and_congr_right fun _ => and_congr_right fun _ => ?_)
  rw [hbuiltin]
  constructor
  · rintro ⟨check, hcheck, hother⟩
    have hplace := mem_of_mem_schemas hcheck hother
    split at hplace
    · exact List.mem_append_right _ hplace
    · exact List.mem_append_left _ hplace
  · exact exists_check_of_followed

theorem asksOnly_compileNode (hbuiltin : compiler.constraints = Constraint.builtin)
    (hnode : graph.get? id = some node) :
    (compiler.compileNode id node).AsksOnly (graph.Follows id) := by
  rw [← asks_eq_follows hbuiltin]
  exact compileNode_asksOnly hnode

theorem compile_atFault (hbuiltin : compiler.constraints = Constraint.builtin) {schema : Schema} {error : CompileError}
    (h : compiler.compile schema = .error error) :
    ∃ other, schema.graph.Reachable schema.root other ∧ AtFault compiler schema.graph other error := by
  rw [Reachable, ← asks_eq_follows hbuiltin]
  exact exists_atFault_of_error h

theorem finished_of_stands {predicate : Predicate} (hsound : Sound compiler graph [] progress)
    (h : progress.Stands id predicate) : progress.Finished id := by
  rcases h with hfin | ⟨index, content, _, hslot⟩
  · exact Option.isSome_iff_exists.mpr ⟨_, hfin⟩
  · rcases hsound.slot index id content hslot with ⟨hmem, _⟩ | ⟨filled, _, hfin⟩
    · cases hmem
    · exact Option.isSome_iff_exists.mpr ⟨filled, hfin⟩

theorem exists_answer_of_asks {fits : SchemaId → Predicate → Prop} {predicate : Predicate}
    (hnode : graph.get? id = some node) (hmade : (compiler.compileNode id node).Yields fits predicate)
    (hasks : compiler.Asks graph id other) : ∃ answer, fits other answer := by
  obtain ⟨asked, hasked, hvalid, check, hcheck, hschema⟩ := hasks
  obtain rfl : node = asked := Option.some.inj (hnode.symm.trans hasked)
  rcases yields_compileNode hmade with ⟨valid, hsome, _⟩ | ⟨_, checks, _, hall⟩
  · rw [hvalid] at hsome
    cases hsome
  · obtain ⟨_, _, hagrees⟩ := Check.exists_right_of_forall₂ hall hcheck
    obtain ⟨answer, _, hfits⟩ := Check.exists_right_of_forall₂ hagrees.schemas hschema
    exact ⟨answer, hfits⟩

theorem exists_answer_of_follows {fits : SchemaId → Predicate → Prop} {predicate : Predicate}
    (hbuiltin : compiler.constraints = Constraint.builtin) (hnode : graph.get? id = some node)
    (hmade : (compiler.compileNode id node).Yields fits predicate) (hfollows : graph.Follows id other) :
    ∃ answer, fits other answer := by
  rw [← asks_eq_follows hbuiltin] at hfollows
  exact exists_answer_of_asks hnode hmade hfollows

theorem finished_of_asked {root : SchemaId} {predicate : Predicate} (hsound : Sound compiler graph [] progress)
    (hroot : progress.Stands root predicate) (hreach : Relation.ReflTransGen (compiler.Asks graph) root id) :
    progress.Finished id := by
  induction hreach with
  | refl => exact finished_of_stands hsound hroot
  | tail _ hasks ih =>
    obtain ⟨made, hfin⟩ := Option.isSome_iff_exists.mp ih
    obtain ⟨node, hnode, hmade⟩ := hsound.made _ made hfin
    obtain ⟨_, hstands⟩ := exists_answer_of_asks hnode hmade hasks
    exact finished_of_stands hsound hstands

theorem finished_of_reachable {root : SchemaId} {predicate : Predicate}
    (hbuiltin : compiler.constraints = Constraint.builtin) (hsound : Sound compiler graph [] progress)
    (hroot : progress.Stands root predicate) (hreach : graph.Reachable root id) : progress.Finished id := by
  rw [Reachable, ← asks_eq_follows hbuiltin] at hreach
  exact finished_of_asked hsound hroot hreach

theorem sound_of_asked {schema : Schema} {validator : Validator} (h : compiler.compile schema = .ok validator)
    (hreach : Relation.ReflTransGen (compiler.Asks schema.graph) schema.root id) :
    (∃ node, schema.graph.get? id = some node) ∧ ∀ error, ¬AtFault compiler schema.graph id error := by
  obtain ⟨progress, hrun, _, _⟩ := compile_cases h
  obtain ⟨hsound, hroot⟩ := run_sound hrun
  obtain ⟨predicate, hfin⟩ := Option.isSome_iff_exists.mp (finished_of_asked hsound hroot hreach)
  obtain ⟨node, hnode, hmade⟩ := hsound.made id predicate hfin
  refine ⟨⟨node, hnode⟩, ?_⟩
  rintro error (⟨hnone, _⟩ | ⟨other, hother, hvalid, constraint, hmem, herror⟩)
  · rw [hnode] at hnone
    cases hnone
  · obtain rfl : node = other := Option.some.inj (hnode.symm.trans hother)
    simp only [compileNode, hvalid, Inquiry.yields_bind, Inquiry.yields_mapM] at hmade
    obtain ⟨results, hall, _⟩ := hmade
    obtain ⟨made, _, hcheck⟩ := Check.exists_right_of_forall₂ hall hmem
    simp only [compileCheck, Inquiry.yields_bind, Inquiry.yields_ofExcept, herror] at hcheck
    obtain ⟨_, hok, _⟩ := hcheck
    cases hok

theorem compile_sound (hbuiltin : compiler.constraints = Constraint.builtin) {schema : Schema} {validator : Validator}
    (h : compiler.compile schema = .ok validator) (hreach : schema.graph.Reachable schema.root id) :
    (∃ node, schema.graph.get? id = some node) ∧ ∀ error, ¬AtFault compiler schema.graph id error := by
  rw [Reachable, ← asks_eq_follows hbuiltin] at hreach
  exact sound_of_asked h hreach

/-- A schema compiles if and only if no node that the root leads the compiler to is at fault. -/
theorem exists_validator_iff {schema : Schema} :
    (∃ validator, compiler.compile schema = .ok validator) ↔
      ∀ id, Relation.ReflTransGen (compiler.Asks schema.graph) schema.root id →
        ∀ error, ¬AtFault compiler schema.graph id error := by
  constructor
  · rintro ⟨validator, h⟩ id hreach
    exact (sound_of_asked h hreach).2
  · intro h
    cases hcompile : compiler.compile schema with
    | ok validator => exact ⟨validator, rfl⟩
    | error error =>
      obtain ⟨id, hreach, hfault⟩ := exists_atFault_of_error hcompile
      exact absurd hfault (h id hreach error)

end Compiler

end JsonSchema
