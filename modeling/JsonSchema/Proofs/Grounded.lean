import JsonSchema.Proofs.Following
import JsonSchema.Proofs.Likeness
import JsonSchema.Proofs.Meaning
import Mathlib.Order.WellFounded
import Mathlib.Data.Fintype.EquivFin

/-!
What a node makes of a value in the end, and when it makes anything of it at all. A graph is grounded where no node is
led back to itself about the same value. Every node of it has an answer then, and the same one for values which are
alike.
-/
namespace JsonSchema

namespace SchemaGraph

variable {graph : SchemaGraph} {engine : PatternEngine} {constraints : List Constraint} {root id : SchemaId}
  {value : Json} {b : Bool}

/-- What a node makes of a value, after as many steps as can be of use. -/
def meaning? (graph : SchemaGraph) (engine : PatternEngine) (constraints : List Constraint) (id : SchemaId)
    (value : Json) : Option Bool :=
  graph.fits engine constraints (graph.size * (value.depth + 1)) id value

theorem fits_refines_meaning? (steps : Nat) (id : SchemaId) (value : Json) :
    Refines (graph.fits engine constraints steps id value) (graph.meaning? engine constraints id value) :=
  fits_enough steps id value

theorem meaning?_eq_some_iff :
    graph.meaning? engine constraints id value = some b ↔
      ∃ steps, graph.fits engine constraints steps id value = some b :=
  ⟨fun h => ⟨_, h⟩, fun ⟨steps, h⟩ => fits_refines_meaning? steps id value b h⟩

theorem meaning?_boolean {node : SchemaNode} (hnode : graph.get? id = some node) (hvalid : node.valid = some b)
    (value : Json) : graph.meaning? engine constraints id value = some b :=
  meaning?_eq_some_iff.mpr ⟨1, by simp [fits, hnode, hvalid]⟩

/-- A node makes of a value what its checks make of it, with what other nodes make of it and of its parts. -/
theorem meaning?_eq {node : SchemaNode} (hnode : graph.get? id = some node) (hvalid : node.valid = none)
    (value : Json) :
    graph.meaning? engine constraints id value =
      Check.runAll (graph.meaning? engine constraints) (checksAt engine constraints id node) value := by
  have hleft : Refines (graph.meaning? engine constraints id value)
      (Check.runAll (graph.meaning? engine constraints) (checksAt engine constraints id node) value) := by
    have hmore : Refines (graph.meaning? engine constraints id value)
        (graph.fits engine constraints (graph.size * (value.depth + 1) + 1) id value) :=
      fits_refines (Nat.le_succ _) id value
    rw [fits_succ hnode hvalid] at hmore
    exact hmore.trans (Check.runAll_refines _ value fun schema part _ => fits_refines_meaning? _ schema part)
  have hright : Refines
      (Check.runAll (graph.meaning? engine constraints) (checksAt engine constraints id node) value)
      (graph.meaning? engine constraints id value) := by
    refine Refines.trans ?_ (fits_refines_meaning? (graph.size * (value.depth + 1) + 1) id value)
    rw [fits_succ hnode hvalid]
    refine Check.runAll_refines _ value fun schema part hpart => fits_refines ?_ schema part
    refine Nat.mul_le_mul_left _ ?_
    rcases hpart with rfl | hless
    · exact Nat.le_refl _
    · omega
  exact Option.ext fun b => ⟨hleft b, hright b⟩

end SchemaGraph

theorem Compiler.isValid?_eq_meaning? {compiler : Compiler} {schema : Schema} {validator : Validator}
    (h : compiler.compile schema = .ok validator) (value : Json) :
    validator.isValid? value = schema.graph.meaning? compiler.engine compiler.constraints schema.root value := by
  refine Option.ext fun b => ?_
  rw [SchemaGraph.meaning?_eq_some_iff]
  exact ⟨fun hvalid => exists_fits_of_validator h hvalid, fun ⟨_, hfits⟩ => isValid?_of_fits h hfits⟩

namespace SchemaGraph

variable {graph : SchemaGraph} {engine : PatternEngine} {constraints : List Constraint} {root id : SchemaId}

theorem not_transGen_staysAt_of_lt {rank : SchemaId → Nat}
    (h : ∀ id other, graph.StaysAt id other → rank id < rank other) (id : SchemaId) :
    ¬Relation.TransGen graph.StaysAt id id := by
  intro hcycle
  have hless : Relation.TransGen (· < ·) (rank id) (rank id) := hcycle.lift rank h
  rw [Relation.transGen_eq_self] at hless
  exact Nat.lt_irrefl _ hless

/-- The nodes of a set are there, and none of them is asked about the same value a second time. -/
structure GroundedOn (graph : SchemaGraph) (reached : SchemaId → Prop) : Prop where
  closed : ∀ id, reached id → ∃ node, graph.get? id = some node
  acyclic : ∀ id, reached id → ¬Relation.TransGen graph.StaysAt id id

abbrev Grounded (graph : SchemaGraph) (root : SchemaId) : Prop := graph.GroundedOn (graph.Reachable root)

/-- In a grounded set it comes to an end that nodes ask others about the same value. -/
theorem GroundedOn.wellFounded {reached : SchemaId → Prop} (h : graph.GroundedOn reached) :
    WellFounded fun second first : { id // reached id } => Relation.TransGen graph.StaysAt first.1 second.1 := by
  let place (id : { id // reached id }) : Fin graph.size :=
    ⟨id.1.index, get?_isSome_iff.mp (Option.isSome_iff_exists.mpr (h.closed id.1 id.2))⟩
  have hplace : Function.Injective place := by
    rintro ⟨⟨first⟩, _⟩ ⟨⟨second⟩, _⟩ heq
    obtain rfl : first = second := congrArg Fin.val heq
    rfl
  have hfinite : Finite { id // reached id } := .of_injective place hplace
  let after (second first : { id // reached id }) : Prop := Relation.TransGen graph.StaysAt first.1 second.1
  have htrans : IsTrans _ after := ⟨fun _ _ _ hab hbc => hbc.trans hab⟩
  have hirrefl : Std.Irrefl after := ⟨fun id => h.acyclic id.1 id.2⟩
  exact Finite.wellFounded_of_trans_of_irrefl after

/-- Every node of a grounded set that asks no other nodes has an answer, and the same one for values that are alike, if
its tests do not tell them apart. In which order its constraints are listed, and how often, does not matter. -/
theorem GroundedOn.agreeing {reached : SchemaId → Prop} {alike : Json → Json → Prop} {first second : List Constraint}
    (h : graph.GroundedOn reached) (hbuiltin : ∀ constraint ∈ first, constraint ∈ Constraint.builtin)
    (hsame : ∀ constraint, constraint ∈ first ↔ constraint ∈ second)
    (hasks : ∀ id other, reached id → Compiler.Asks ⟨engine, first⟩ graph id other → reached other)
    (hlike : Likeness alike)
    (htests : ∀ id node, reached id → graph.get? id = some node → node.valid = none →
      ∀ accepts, .test accepts ∈ checksAt engine first id node → ∀ a b, alike a b → accepts a = accepts b)
    (hid : reached id) {a b : Json} (hab : alike a b) :
    Agreeing (graph.meaning? engine first id a) (graph.meaning? engine second id b) := by
  -- First by how deep the value is nested, then by which nodes are asked about the same value.
  induction hdepth : a.depth using Nat.strong_induction_on generalizing a b id with
  | _ depth ihdepth =>
    generalize hstart : (⟨id, hid⟩ : { id // reached id }) = start
    induction start using h.wellFounded.induction generalizing id a b with
    | _ start ihplace =>
      subst hstart
      obtain ⟨node, hnode⟩ := h.closed id hid
      cases hvalid : node.valid with
      | some valid => exact ⟨valid, meaning?_boolean hnode hvalid a, meaning?_boolean hnode hvalid b⟩
      | none =>
        rw [meaning?_eq hnode hvalid, meaning?_eq hnode hvalid]
        have hlists (check : Check SchemaId) :
            check ∈ checksAt engine first id node ↔ check ∈ checksAt engine second id node := by
          simp only [mem_checksAt, hsame]
        have hrun : ∀ check ∈ checksAt engine first id node,
            Agreeing (check.run (graph.meaning? engine first) a) (check.run (graph.meaning? engine second) b) := by
          intro check hcheck
          have hself :
              Check.Matches alike (fun schema other => schema = other ∧ schema ∈ check.schemas) check check := by
            refine check.matches_self (fun schema hmem => ⟨rfl, hmem⟩) ?_
            rintro accepts rfl
            exact htests id node hid hnode hvalid accepts hcheck
          refine Check.run_alike hlike Agreeing.unordered hab hself ?_
          rintro schema _ ⟨rfl, hmem⟩ x y hxy hpass
          have hnext : reached schema := hasks id schema hid ⟨node, hnode, hvalid, check, hcheck, hmem⟩
          have hplace := mem_of_mem_schemas (checksAt_subset hbuiltin hcheck) hmem
          by_cases hmoves : check.movesOn
          · rw [Check.Passes, if_pos hmoves, hdepth] at hpass
            exact ihdepth x.depth hpass hnext hxy rfl
          · rw [if_neg hmoves] at hplace
            rw [Check.Passes, if_neg hmoves] at hpass
            subst hpass
            have hstays : graph.StaysAt id schema := ⟨node, hnode, hvalid, hplace⟩
            exact ihplace ⟨schema, hnext⟩ (.single hstays) hnext hxy hdepth rfl
        refine Agreeing.unordered.all (fun check hcheck => ?_) fun check hcheck => ?_
        · exact ⟨check, (hlists check).mp hcheck, hrun check hcheck⟩
        · exact ⟨check, (hlists check).mpr hcheck, hrun check ((hlists check).mpr hcheck)⟩

theorem Grounded.agreeing {alike : Json → Json → Prop} (h : graph.Grounded root) (hlike : Likeness alike)
    (htests : ∀ id node, graph.Reachable root id → graph.get? id = some node → node.valid = none →
      ∀ accepts, .test accepts ∈ checksAt engine Constraint.builtin id node →
        ∀ a b, alike a b → accepts a = accepts b)
    (hid : graph.Reachable root id) {a b : Json} (hab : alike a b) :
    Agreeing (graph.meaning? engine Constraint.builtin id a) (graph.meaning? engine Constraint.builtin id b) := by
  refine GroundedOn.agreeing h (fun _ hmem => hmem) (fun _ => Iff.rfl) (fun id other hreach hasks => ?_) hlike htests
    hid hab
  rw [Compiler.asks_eq_follows rfl] at hasks
  exact hreach.tail hasks

theorem Grounded.exists_meaning? (h : graph.Grounded root) (hid : graph.Reachable root id) (value : Json) :
    ∃ b, graph.meaning? engine Constraint.builtin id value = some b := by
  have hagreeing : Agreeing (graph.meaning? engine Constraint.builtin id value)
      (graph.meaning? engine Constraint.builtin id value) :=
    h.agreeing Json.likeness_eq (fun _ _ _ _ _ accepts _ _ _ hab => congrArg accepts hab) hid rfl
  obtain ⟨b, hb, _⟩ := hagreeing
  exact ⟨b, hb⟩

end SchemaGraph

namespace Compiler

open SchemaGraph

variable {compiler : Compiler} {schema : Schema} {validator : Validator}

theorem exists_isValid? (hbuiltin : compiler.constraints = Constraint.builtin)
    (hcompile : compiler.compile schema = .ok validator)
    (hacyclic : ∀ id, schema.graph.Reachable schema.root id → ¬Relation.TransGen schema.graph.StaysAt id id)
    (value : Json) : ∃ verdict, validator.isValid? value = some verdict := by
  have hgrounded : schema.graph.Grounded schema.root :=
    ⟨fun id hid => (compile_sound hbuiltin hcompile hid).1, hacyclic⟩
  rw [isValid?_eq_meaning? hcompile, hbuiltin]
  exact hgrounded.exists_meaning? .refl value

/-- Where no node that the root leads to is led back to itself about the same value, validation ends on every value,
however deep its way through nodes and slots. It takes no more nested steps than `Validator.steps` says, and with more
steps the verdict is the same. -/
theorem isValid?_ends (hbuiltin : compiler.constraints = Constraint.builtin)
    (hcompile : compiler.compile schema = .ok validator)
    (hacyclic : ∀ id, schema.graph.Reachable schema.root id → ¬Relation.TransGen schema.graph.StaysAt id id)
    (value : Json) :
    ∃ verdict, validator.isValid? value = some verdict ∧
      ∀ steps, validator.steps value ≤ steps → validator.root.fits validator.slots steps value = some verdict := by
  obtain ⟨verdict, hvalid⟩ := exists_isValid? hbuiltin hcompile hacyclic value
  exact ⟨verdict, hvalid, fun steps hle => Predicate.fits_refines hle validator.root value verdict hvalid⟩

def namedTrees : Schema where
  graph := ⟨#[{ propertyNames := some ⟨0⟩, additionalProperties := .schema ⟨0⟩, anyOf := some [⟨1⟩, ⟨2⟩] },
    { items := some (.every ⟨0⟩), minLength := some 1 }, { types := some (.only .null) }]⟩
  root := ⟨0⟩

theorem isValid?_ends_namedTrees :
    ∃ validator verdict, (ofOptions {}).compile namedTrees = .ok validator ∧ validator.slotCount = 1 ∧
      validator.isValid? (.object [("left", .array [.null, .string "leaf"]), ("", .null)]) = some verdict := by
  obtain ⟨validator, hcompile, hcount⟩ :
      ∃ validator, (ofOptions {}).compile namedTrees = .ok validator ∧ validator.slotCount = 1 := ⟨_, rfl, rfl⟩
  have hforward (id other : SchemaId) (h : namedTrees.graph.StaysAt id other) : id.index < other.index := by
    obtain ⟨node, hnode, _, hmem⟩ := h
    obtain ⟨_ | _ | _ | _⟩ := id <;> cases hnode
    · change other ∈ [SchemaId.mk 1, SchemaId.mk 2] at hmem
      rcases List.mem_pair.mp hmem with rfl | rfl
      · exact Nat.zero_lt_one
      · exact Nat.zero_lt_two
    · cases hmem
    · cases hmem
  obtain ⟨verdict, hvalid, _⟩ := isValid?_ends rfl hcompile (fun id _ => not_transGen_staysAt_of_lt hforward id)
    (.object [("left", .array [.null, .string "leaf"]), ("", .null)])
  exact ⟨validator, verdict, hcompile, hcount, hvalid⟩

end Compiler

end JsonSchema
