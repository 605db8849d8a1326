import JsonSchema.Engine
import JsonSchema.Proofs.Compilation
import Mathlib.Order.Monotone.Basic
import Mathlib.Data.Finset.Card

/-!
Compiling keeps the meaning of schemas. The predicates of a validator and the nodes of the graph give the same answers,
whatever cycles there are; and no more steps are ever needed than a validator takes.
-/
namespace JsonSchema

variable {engine : PatternEngine} {constraints : List Constraint} {graph : SchemaGraph} {slots : List Predicate}
  {id : SchemaId} {predicate : Predicate} {steps more : Nat} {value : Json} {b : Bool}

namespace Refines

theorem refl (x : Option Bool) : Refines x x := fun _ h => h

theorem trans {x y z : Option Bool} (h : Refines x y) (h' : Refines y z) : Refines x z := fun b hb => h' b (h b hb)

theorem none (y : Option Bool) : Refines .none y := fun _ h => nomatch h

theorem of_isSome {x y : Option Bool} (h : Refines x y) (hsome : y.isSome → x.isSome) : Refines y x := by
  rintro b rfl
  obtain ⟨a, rfl⟩ := Option.isSome_iff_exists.mp (hsome rfl)
  exact (h a rfl).symm

end Refines

theorem Check.runAll_refines {ρ : Type} {fits fits' : ρ → Json → Option Bool} (checks : List (Check ρ)) (value : Json)
    (h : ∀ schema part, part = value ∨ part.depth < value.depth → Refines (fits schema part) (fits' schema part)) :
    Refines (Check.runAll fits checks value) (Check.runAll fits' checks value) := by
  have hself : List.Forall₂ (Check.Agrees Unit Eq) checks checks :=
    List.forall₂_same.mpr fun check _ => check.agrees_self
  refine Check.runAll_related Refines.compositional hself ?_
  rintro schema _ rfl part hpart
  exact h schema part hpart

theorem Predicate.fits_refines (hle : steps ≤ more) (predicate : Predicate) (value : Json) :
    Refines (predicate.fits slots steps value) (predicate.fits slots more value) := by
  induction steps generalizing more predicate value with
  | zero => exact .none _
  | succ steps ih =>
    obtain ⟨more, rfl⟩ : ∃ less, more = less + 1 := ⟨more - 1, by omega⟩
    have hless : steps ≤ more := by omega
    cases predicate with
    | constant valid => exact .refl _
    | all checks => exact Check.runAll_refines checks value fun schema part _ => ih hless schema part
    | slot index =>
      simp only [fits]
      cases slots[index]? with
      | none => exact .none _
      | some target => exact ih hless target value

namespace SchemaGraph

theorem fits_succ {node : SchemaNode} (hnode : graph.get? id = some node) (hvalid : node.valid = none) :
    graph.fits engine constraints (steps + 1) id value =
      Check.runAll (graph.fits engine constraints steps) (checksAt engine constraints id node) value := by
  simp [fits, hnode, hvalid]

/-- A node asks more of a value only of the same value or of values that are nested less deep. -/
theorem fits_succ_refines (first second : Nat) (id : SchemaId) (value : Json)
    (h : ∀ other part, part = value ∨ part.depth < value.depth →
      Refines (graph.fits engine constraints first other part) (graph.fits engine constraints second other part)) :
    Refines (graph.fits engine constraints (first + 1) id value)
      (graph.fits engine constraints (second + 1) id value) := by
  cases hnode : graph.get? id with
  | none => simpa [fits, hnode] using Refines.none _
  | some node =>
    cases hvalid : node.valid with
    | some valid => simpa [fits, hnode, hvalid] using Refines.refl _
    | none =>
      rw [fits_succ hnode hvalid, fits_succ hnode hvalid]
      exact Check.runAll_refines _ value h

theorem fits_refines (hle : steps ≤ more) (id : SchemaId) (value : Json) :
    Refines (graph.fits engine constraints steps id value) (graph.fits engine constraints more id value) := by
  induction steps generalizing more id value with
  | zero => exact .none _
  | succ steps ih =>
    obtain ⟨more, rfl⟩ : ∃ less, more = less + 1 := ⟨more - 1, by omega⟩
    exact fits_succ_refines _ _ id value fun other part _ => ih (by omega) other part

/-- The nodes that have an answer after so many steps. -/
def answered (graph : SchemaGraph) (engine : PatternEngine) (constraints : List Constraint) (value : Json)
    (steps : Nat) : Finset Nat :=
  (Finset.range graph.size).filter fun index => (graph.fits engine constraints steps ⟨index⟩ value).isSome

theorem mem_answered (index : Nat) :
    index ∈ answered graph engine constraints value steps ↔
      (graph.fits engine constraints steps ⟨index⟩ value).isSome := by
  simp only [answered, Finset.mem_filter, Finset.mem_range, and_iff_right_iff_imp]
  intro hsome
  cases steps with
  | zero => simp [fits] at hsome
  | succ steps =>
    refine get?_isSome_iff.mp (Option.isSome_iff_exists.mpr ?_)
    obtain ⟨b, hb⟩ := Option.isSome_iff_exists.mp hsome
    obtain ⟨node, hnode, _⟩ := Option.bind_eq_some_iff.mp hb
    exact ⟨node, hnode⟩

theorem card_answered_le : (answered graph engine constraints value steps).card ≤ graph.size :=
  (Finset.card_filter_le _ _).trans_eq (Finset.card_range _)

theorem answered_mono : Monotone (answered graph engine constraints value) := by
  intro steps more hle index hmem
  obtain ⟨b, hb⟩ := Option.isSome_iff_exists.mp ((mem_answered _).mp hmem)
  exact (mem_answered _).mpr (Option.isSome_iff_exists.mpr ⟨b, fits_refines hle _ _ b hb⟩)

/-- Nothing is gained by a step after which no node has a new answer. -/
theorem refines_of_answered_eq (hle : steps ≤ more) (id : SchemaId)
    (h : answered graph engine constraints value steps = answered graph engine constraints value more) :
    Refines (graph.fits engine constraints more id value) (graph.fits engine constraints steps id value) := by
  refine (fits_refines hle id value).of_isSome fun hsome => ?_
  rw [← mem_answered id.index, h]
  exact (mem_answered _).mpr hsome

/-- If values nested less deep need no more than some steps, this value needs at most one more step for each node. -/
theorem fits_enough_of_less (steps : Nat)
    (hless : ∀ part : Json, part.depth < value.depth → ∀ more id,
      Refines (graph.fits engine constraints more id part) (graph.fits engine constraints steps id part))
    (id : SchemaId) :
    Refines (graph.fits engine constraints more id value)
      (graph.fits engine constraints (steps + graph.size) id value) := by
  let count (extra : Nat) : Nat := (answered graph engine constraints value (steps + extra)).card
  have hmono : Monotone count := fun _ _ hle => Finset.card_le_card (answered_mono (by omega))
  have hbound (extra : Nat) : count extra ≤ graph.size := card_answered_le
  have hsame {first second : Nat} (hle : first ≤ second) (hcount : count first = count second) :
      answered graph engine constraints value (steps + first) =
        answered graph engine constraints value (steps + second) :=
    Finset.eq_of_subset_of_card_le (answered_mono (by omega)) hcount.ge
  have hstop (extra : Nat) (hcount : count extra = count (extra + 1)) : count (extra + 1) = count (extra + 2) := by
    refine congrArg Finset.card (Finset.Subset.antisymm (answered_mono (by omega)) fun index hmem => ?_)
    obtain ⟨b, hb⟩ := Option.isSome_iff_exists.mp ((mem_answered _).mp hmem)
    refine (mem_answered _).mpr (Option.isSome_iff_exists.mpr ⟨b, ?_⟩)
    refine fits_succ_refines (steps + (extra + 1)) (steps + extra) ⟨index⟩ value ?_ b hb
    rintro other part (rfl | hdepth)
    · exact refines_of_answered_eq (by omega) other (hsame (by omega) hcount)
    · exact (hless part hdepth _ other).trans (fits_refines (by omega) other part)
  have hcount : count graph.size = count (graph.size + more) :=
    (Nat.stabilises_of_monotone hmono hbound hstop (Nat.le_add_right _ _)).symm
  exact (fits_refines (by omega) id value).trans (refines_of_answered_eq (by omega) id (hsame (by omega) hcount))

/-- An answer that is ever found is found within one step for each node and each level of the value. -/
theorem fits_enough (more : Nat) (id : SchemaId) (value : Json) :
    Refines (graph.fits engine constraints more id value)
      (graph.fits engine constraints (graph.size * (value.depth + 1)) id value) := by
  induction hdepth : value.depth using Nat.strong_induction_on generalizing value more id with
  | _ depth ih =>
    refine fits_enough_of_less (graph.size * depth) ?_ id
    intro part hpart more id
    refine (ih part.depth (hdepth ▸ hpart) more id part rfl).trans (fits_refines ?_ id part)
    exact Nat.mul_le_mul_left _ (by omega)

end SchemaGraph

namespace Compiler

open Progress

variable {compiler : Compiler} {progress : Progress}

theorem related_of_finished {rel : Option Bool → Option Bool → Prop} (hrel : Compositional rel) {first second : Nat}
    (hsound : Sound compiler graph [] progress)
    (hstands : ∀ id predicate, progress.Stands id predicate → ∀ part,
      rel (graph.fits compiler.engine compiler.constraints first id part) (predicate.fits slots second part))
    (hfin : progress.finished.lookup id = some predicate) (value : Json) :
    rel (graph.fits compiler.engine compiler.constraints (first + 1) id value)
      (predicate.fits slots (second + 1) value) := by
  obtain ⟨node, hnode, hmade⟩ := hsound.made id predicate hfin
  rcases yields_compileNode hmade with ⟨valid, hvalid, rfl⟩ | ⟨hvalid, checks, rfl, hall⟩
  · simpa [SchemaGraph.fits, Predicate.fits, hnode, hvalid] using hrel.some valid
  · rw [SchemaGraph.fits_succ hnode hvalid]
    exact Check.runAll_related hrel hall fun schema answer hagree part _ => hstands schema answer hagree part

/-- For every step at a node a predicate takes at most two, the second one through a slot. -/
theorem predicate_refines (hsound : Sound compiler graph [] progress) (htable : Tabled progress slots)
    (hstands : progress.Stands id predicate) (value : Json) :
    Refines (graph.fits compiler.engine compiler.constraints steps id value)
      (predicate.fits slots (2 * steps) value) := by
  induction steps generalizing id predicate value with
  | zero => exact .none _
  | succ steps ih =>
    have hfinished {id : SchemaId} {predicate : Predicate} (hfin : progress.finished.lookup id = some predicate) :=
      related_of_finished Refines.compositional hsound (fun _ _ hs part => ih hs part) hfin value
    rcases hstands with hfin | ⟨index, content, rfl, hslot⟩
    · exact (hfinished hfin).trans (Predicate.fits_refines (by omega) predicate value)
    · obtain ⟨target, hfin, htarget⟩ := htable index id content hslot
      have heq : (Predicate.slot index).fits slots (2 * (steps + 1)) value =
          target.fits slots (2 * steps + 1) value := by
        simp [Nat.mul_add, Predicate.fits, htarget]
      rw [heq]
      exact hfinished hfin

theorem graph_refines (hsound : Sound compiler graph [] progress) (htable : Tabled progress slots)
    (hstands : progress.Stands id predicate) (value : Json) :
    Refines (predicate.fits slots steps value)
      (graph.fits compiler.engine compiler.constraints steps id value) := by
  induction steps using Nat.strong_induction_on generalizing id predicate value with
  | _ steps ih =>
    have hfinished {less : Nat} (hless : less ≤ steps) {id : SchemaId} {predicate : Predicate}
        (hfin : progress.finished.lookup id = some predicate) :
        Refines (predicate.fits slots less value) (graph.fits compiler.engine compiler.constraints less id value) := by
      cases less with
      | zero => exact .none _
      | succ less =>
        exact related_of_finished Refines.compositional_flip hsound
          (fun _ _ hs part => ih less (by omega) hs part) hfin value
    rcases hstands with hfin | ⟨index, content, rfl, hslot⟩
    · exact hfinished (le_refl _) hfin
    · obtain ⟨target, hfin, htarget⟩ := htable index id content hslot
      cases steps with
      | zero => exact .none _
      | succ steps =>
        have heq : (Predicate.slot index).fits slots (steps + 1) value = target.fits slots steps value := by
          simp [Predicate.fits, htarget]
        rw [heq]
        exact (hfinished (Nat.le_succ steps) hfin).trans (SchemaGraph.fits_refines (by omega) id value)

variable {schema : Schema} {validator : Validator}

/-- What a validator ever answers, its graph answers. -/
theorem exists_fits_of_validator (h : compiler.compile schema = .ok validator)
    (hfits : validator.root.fits validator.slots steps value = some b) :
    ∃ steps, schema.graph.fits compiler.engine compiler.constraints steps schema.root value = some b := by
  obtain ⟨progress, hrun, _, hall⟩ := compile_cases h
  obtain ⟨hsound, hroot⟩ := run_sound hrun
  exact ⟨steps, graph_refines hsound (tabled_of_forall₂ hall) hroot value b hfits⟩

/-- What a graph ever answers, its validator answers within the steps that it takes. -/
theorem isValid?_of_fits (h : compiler.compile schema = .ok validator)
    (hfits : schema.graph.fits compiler.engine compiler.constraints steps schema.root value = some b) :
    validator.isValid? value = some b := by
  obtain ⟨progress, hrun, hschema, hall⟩ := compile_cases h
  obtain ⟨hsound, hroot⟩ := run_sound hrun
  have henough := SchemaGraph.fits_enough steps schema.root value b hfits
  have hpredicate := predicate_refines hsound (tabled_of_forall₂ hall) hroot value b henough
  refine Predicate.fits_refines ?_ validator.root value b hpredicate
  simp only [Validator.steps, hschema]
  calc
    2 * (schema.graph.size * (value.depth + 1)) = 2 * schema.graph.size * (value.depth + 1) := by rw [Nat.mul_assoc]
    _ ≤ (2 * schema.graph.size + 2) * (value.depth + 2) := Nat.mul_le_mul (by omega) (by omega)

/-- Compiling keeps the meaning of a schema. A validator comes to an answer exactly if the graph does, and it is the
same; and the steps that a validator takes are enough for it. -/
theorem compile_preserves_meaning {schema : Schema} {validator : Validator}
    (h : compiler.compile schema = .ok validator) (value : Json) (b : Bool) :
    ((∃ steps, validator.root.fits validator.slots steps value = some b) ↔
      ∃ steps, schema.graph.fits compiler.engine compiler.constraints steps schema.root value = some b) ∧
    (validator.isValid? value = some b ↔
      ∃ steps, schema.graph.fits compiler.engine compiler.constraints steps schema.root value = some b) := by
  have hvalidator (hgraph : ∃ steps,
      schema.graph.fits compiler.engine compiler.constraints steps schema.root value = some b) :
      validator.isValid? value = some b :=
    hgraph.elim fun _ hfits => isValid?_of_fits h hfits
  refine ⟨⟨?_, ?_⟩, ?_, hvalidator⟩
  · exact fun ⟨_, hfits⟩ => exists_fits_of_validator h hfits
  · exact fun hgraph => ⟨_, hvalidator hgraph⟩
  · exact fun hvalid => exists_fits_of_validator h hvalid

def namedCells : Schema where
  graph := ⟨#[{ properties := [("next", ⟨1⟩)] }, { required := ["name"], allOf := some [⟨0⟩] }]⟩
  root := ⟨0⟩

theorem compile_preserves_meaning_namedCells :
    ∃ validator, (ofOptions {}).compile namedCells = .ok validator ∧
      validator.isValid? (.object [("next", .object [("next", .object [])])]) = some false := by
  obtain ⟨validator, hcompile⟩ : ∃ validator, (ofOptions {}).compile namedCells = .ok validator := ⟨_, rfl⟩
  exact ⟨validator, hcompile, (compile_preserves_meaning hcompile _ false).2.mpr ⟨5, rfl⟩⟩

end Compiler

end JsonSchema
