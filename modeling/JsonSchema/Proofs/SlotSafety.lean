import JsonSchema.Proofs.BuildFaults
import Mathlib.Data.List.Perm.Subperm

/-!
Safety of slots. A build runs the body of each node at most once and looks only at nodes of the graph; no slot is left
empty; and every slot that a predicate of the validator has in it leads to the predicate of the node that is meant.
-/
namespace JsonSchema

/-- A slot is looked up somewhere in a predicate. -/
inductive Predicate.Captures : Predicate → Nat → Prop
  | slot (index : Nat) : Captures (.slot index) index
  | all {checks : List (Check Predicate)} {check : Check Predicate} {predicate : Predicate} {index : Nat} :
    check ∈ checks → predicate ∈ check.schemas → Captures predicate index → Captures (.all checks) index

/-- Of the constraints only that on contents can be at fault. -/
theorem Constraint.eq_of_builtin_error {constraint : Constraint} (hmem : constraint ∈ Constraint.builtin)
    {engine : PatternEngine} {id : SchemaId} {node : SchemaNode} {error : CompileError}
    (herror : constraint engine id node = .error error) :
    ∃ mediaType, node.mediaType = some mediaType ∧ isJsonMediaType mediaType = false ∧
      error = .unsupportedMediaType mediaType id := by
  by_cases hcontent : constraint = content
  · subst hcontent
    unfold content at herror
    cases htype : node.mediaType with
    | none => simp [htype] at herror
    | some mediaType =>
      cases hjson : isJsonMediaType mediaType with
      | true => simp [htype, hjson] at herror
      | false =>
        simp only [htype, hjson, Bool.false_eq_true, if_false, Except.error.injEq] at herror
        exact ⟨mediaType, rfl, hjson, herror.symm⟩
  · simp only [builtin, List.mem_cons, List.not_mem_nil, or_false, hcontent, false_or] at hmem
    rcases hmem with rfl | rfl | rfl | rfl | rfl | rfl | rfl | rfl | rfl | rfl | rfl | rfl | rfl | rfl | rfl | rfl |
      rfl | rfl | rfl | rfl | rfl | rfl | rfl | rfl <;> cases herror

namespace Compiler

open Progress

variable {compiler : Compiler} {graph : SchemaGraph} {rounds : Nat} {path : List SchemaId} {id : SchemaId}
  {progress next : Progress} {predicate : Predicate}

/-- The nodes whose bodies a visit runs, in the order in which it begins with them. -/
def bodies (compiler : Compiler) (graph : SchemaGraph) :
    (rounds : Nat) → (path : List SchemaId) → (offPath graph path).length < rounds → SchemaId → Progress → List SchemaId
  | 0, _, _, _, _ => []
  | rounds + 1, path, h, id, progress =>
    match progress.finished.lookup id with
    | some _ => []
    | none =>
      if onWay : id ∈ path then []
      else if found : (graph.get? id).isSome then
        have less := offPath_cons_lt found onWay h
        id :: (compiler.compileNode id ((graph.get? id).get found)).notes
          (compiler.visit graph rounds (id :: path) less) (compiler.bodies graph rounds (id :: path) less) progress
      else []

def bodiesOf (compiler : Compiler) (schema : Schema) : List SchemaId :=
  compiler.bodies schema.graph (schema.graph.size + 1) [] (by rw [offPath_nil_length]; omega) schema.root {}

/-- Bodies run from a state: each at most once, and of nodes of the graph that are neither on the way nor finished. -/
structure RunsOnce (graph : SchemaGraph) (path : List SchemaId) (progress : Progress) (ids : List SchemaId) : Prop where
  nodup : ids.Nodup
  fresh : ∀ id ∈ ids, id ∉ path ∧ ¬progress.Finished id ∧ (graph.get? id).isSome

theorem RunsOnce.nil : RunsOnce graph path progress [] := ⟨.nil, by simp⟩

theorem RunsOnce.append {first second : List SchemaId} (hfirst : RunsOnce graph path progress first)
    (hdone : ∀ id, next.Finished id ↔ progress.Finished id ∨ id ∈ first) (hsecond : RunsOnce graph path next second) :
    RunsOnce graph path progress (first ++ second) := by
  refine ⟨List.nodup_append.mpr ⟨hfirst.nodup, hsecond.nodup, ?_⟩, ?_⟩
  · rintro id hid _ hid' rfl
    exact (hsecond.fresh id hid').2.1 ((hdone id).mpr (.inr hid))
  · intro id hmem
    rcases List.mem_append.mp hmem with hid | hid
    · exact hfirst.fresh id hid
    · obtain ⟨hpath, hopen, hnode⟩ := hsecond.fresh id hid
      exact ⟨hpath, fun hfin => hopen ((hdone id).mpr (.inl hfin)), hnode⟩

theorem RunsOnce.cons {ids : List SchemaId} (hpath : id ∉ path) (hopen : ¬progress.Finished id)
    (hnode : (graph.get? id).isSome) (h : RunsOnce graph (id :: path) progress ids) :
    RunsOnce graph path progress (id :: ids) := by
  refine ⟨List.nodup_cons.mpr ⟨fun hmem => (h.fresh id hmem).1 (by simp), h.nodup⟩, ?_⟩
  intro other hmem
  rcases List.mem_cons.mp hmem with rfl | hmem
  · exact ⟨hpath, hopen, hnode⟩
  · obtain ⟨hother, hrest⟩ := h.fresh other hmem
    exact ⟨fun hp => hother (List.mem_cons_of_mem _ hp), hrest⟩

/-- What every question runs at most once and finishes, a computation runs at most once and finishes. -/
theorem runsOnce_notes {α : Type} {respond : SchemaId → Compiling Predicate}
    {note : SchemaId → Progress → List SchemaId}
    (hstep : ∀ question state, Sound compiler graph path state → RunsOnce graph path state (note question state) ∧
      ∀ answer after, respond question state = .ok (answer, after) → Sound compiler graph path after ∧
        ∀ id, after.Finished id ↔ state.Finished id ∨ id ∈ note question state)
    {x : Assembly α} (hsound : Sound compiler graph path progress) :
    RunsOnce graph path progress (x.notes respond note progress) ∧
      ∀ value last, x.run respond progress = .ok (value, last) →
        ∀ id, last.Finished id ↔ progress.Finished id ∨ id ∈ x.notes respond note progress := by
  induction x generalizing progress with
  | done value =>
    refine ⟨.nil, ?_⟩
    intro _ last hrun id
    cases hrun
    simp [Inquiry.notes]
  | fail error =>
    refine ⟨.nil, ?_⟩
    intro _ last hrun
    cases hrun
  | ask question rest ih =>
    obtain ⟨honce, hafter⟩ := hstep question progress hsound
    simp only [Inquiry.notes, Inquiry.run_ask_eq]
    cases hresp : respond question progress with
    | error error => simpa using honce
    | ok result =>
      obtain ⟨answer, after⟩ := result
      obtain ⟨hsound', hdone⟩ := hafter answer after hresp
      obtain ⟨hrest, hlast⟩ := ih answer hsound'
      refine ⟨honce.append hdone hrest, ?_⟩
      intro value last hrun id
      rw [hlast value last hrun, hdone, List.mem_append, or_assoc]

theorem finished_finish (id : SchemaId) (predicate : Predicate) (progress : Progress) (other : SchemaId) :
    (finish id predicate progress).Finished other ↔ other = id ∨ progress.Finished other := by
  by_cases h : other = id
  · simp [h, Progress.Finished, finish]
  · simp [h, Progress.Finished, finish, List.lookup_cons, beq_false_of_ne h]

theorem finished_slotFor (h : slotFor id progress = .ok (predicate, next)) (other : SchemaId) :
    next.Finished other ↔ progress.Finished other := by
  rw [slotFor_eq] at h
  split at h
  · cases h
    exact Iff.rfl
  · cases h
    exact Iff.rfl

/-- A visit runs bodies at most once, and finishes exactly the nodes whose bodies it runs. -/
theorem runsOnce_bodies (h : (offPath graph path).length < rounds) (hsound : Sound compiler graph path progress) :
    RunsOnce graph path progress (compiler.bodies graph rounds path h id progress) ∧
      ∀ predicate next, compiler.visit graph rounds path h id progress = .ok (predicate, next) →
        ∀ other, next.Finished other ↔
          progress.Finished other ∨ other ∈ compiler.bodies graph rounds path h id progress := by
  induction rounds generalizing path id progress with
  | zero => exact absurd h (Nat.not_lt_zero _)
  | succ rounds ih =>
    rw [bodies, visit_eq h]
    cases hfin : progress.finished.lookup id with
    | some made =>
      refine ⟨.nil, ?_⟩
      intro _ next hvisit other
      cases hvisit
      simp
    | none =>
      by_cases onWay : id ∈ path
      · simp only [dif_pos onWay]
        refine ⟨.nil, ?_⟩
        intro _ next hslot other
        simpa using finished_slotFor hslot other
      · simp only [dif_neg onWay]
        by_cases found : (graph.get? id).isSome
        · have hless := offPath_cons_lt found onWay h
          have hstep (question : SchemaId) (state : Progress) (hstate : Sound compiler graph (id :: path) state) :
              RunsOnce graph (id :: path) state (compiler.bodies graph rounds (id :: path) hless question state) ∧
                ∀ answer after, compiler.visit graph rounds (id :: path) hless question state = .ok (answer, after) →
                  Sound compiler graph (id :: path) after ∧ ∀ other, after.Finished other ↔
                    state.Finished other ∨ other ∈ compiler.bodies graph rounds (id :: path) hless question state := by
            obtain ⟨honce, hdone⟩ := @ih (id :: path) question state hless hstate
            exact ⟨honce, fun answer after hv => ⟨(visit_sound hless hstate hv).1.1, hdone answer after hv⟩⟩
          obtain ⟨honce, hdone⟩ := runsOnce_notes hstep (x := compiler.compileNode id ((graph.get? id).get found))
            (hsound.enter hfin)
          simp only [dif_pos found]
          refine ⟨honce.cons onWay (by simp [Progress.Finished, hfin]) found, ?_⟩
          intro predicate next hmap other
          cases hrun : (compiler.compileNode id ((graph.get? id).get found)).run
              (compiler.visit graph rounds (id :: path) hless) progress with
          | error error => simp [hrun, Except.map] at hmap
          | ok result =>
            simp only [hrun, Except.map, Except.ok.injEq, Prod.mk.injEq] at hmap
            obtain ⟨rfl, rfl⟩ := hmap
            rw [finished_finish, hdone _ _ hrun, List.mem_cons]
            exact or_left_comm
        · simp only [dif_neg found]
          refine ⟨.nil, ?_⟩
          intro _ next hvisit
          cases hvisit

theorem runsOnce_bodiesOf (compiler : Compiler) (schema : Schema) :
    RunsOnce schema.graph [] {} (compiler.bodiesOf schema) :=
  (runsOnce_bodies _ (sound_empty compiler schema.graph)).1

theorem length_bodiesOf_le (compiler : Compiler) (schema : Schema) :
    (compiler.bodiesOf schema).length ≤ schema.graph.size := by
  have honce := runsOnce_bodiesOf compiler schema
  have hsub : compiler.bodiesOf schema ⊆ schema.graph.ids := by
    intro id hmem
    have hlt := SchemaGraph.get?_isSome_iff.mp (honce.fresh id hmem).2.2
    exact List.mem_map.mpr ⟨id.index, List.mem_range.mpr hlt, rfl⟩
  have hle := (honce.nodup.subperm hsub).length_le
  simpa [SchemaGraph.ids] using hle

/-- The faults of a schema itself: a media type that cannot be checked, or a place outside of the graph. -/
def IsSchemaFault (graph : SchemaGraph) (error : CompileError) : Prop :=
  (∃ mediaType id, error = .unsupportedMediaType mediaType id) ∨ ∃ id, error = .missingNode id ∧ graph.get? id = none

theorem isSchemaFault_of_builtin {constraint : Constraint} (hmem : constraint ∈ Constraint.builtin)
    {engine : PatternEngine} {node : SchemaNode} {error : CompileError}
    (herror : constraint engine id node = .error error) : IsSchemaFault graph error := by
  obtain ⟨mediaType, _, _, rfl⟩ := Constraint.eq_of_builtin_error hmem herror
  exact .inl ⟨mediaType, id, rfl⟩

theorem compile_fault (hbuiltin : ∀ constraint ∈ compiler.constraints, constraint ∈ Constraint.builtin)
    {schema : Schema} {error : CompileError} (h : compiler.compile schema = .error error) :
    IsSchemaFault schema.graph error := by
  obtain ⟨other, _, ⟨hnode, rfl⟩ | ⟨node, _, _, constraint, hmem, herror⟩⟩ := exists_atFault_of_error h
  · exact .inr ⟨other, rfl, hnode⟩
  · exact isSchemaFault_of_builtin (hbuiltin constraint hmem) herror

/-- What a build leaves: the predicates of the nodes whose bodies it ran, and a table in which the slot of a node holds
the very predicate of that node. -/
structure Linked (compiler : Compiler) (schema : Schema) (progress : Progress) (validator : Validator) : Prop where
  root : compiler.run schema.graph schema.root = .ok (validator.root, progress)
  finished : ∀ id, progress.Finished id ↔ id ∈ compiler.bodiesOf schema
  length : validator.slots.length = progress.slots.length
  owners : (progress.slots.map Prod.fst).Nodup
  /-- The slot of a node holds the predicate of that node. -/
  memoised : Tabled progress validator.slots
  /-- No predicate looks up a slot that is not in the table. -/
  captured : ∀ predicate, predicate = validator.root ∨ predicate ∈ validator.slots ∨
      (∃ id, progress.finished.lookup id = some predicate) →
    ∀ index, predicate.Captures index → index < validator.slots.length
  /-- In a predicate, each schema that its node asks for is answered by the predicate of that schema, or by the slot
  that leads to it. -/
  bodies : ∀ id predicate, progress.finished.lookup id = some predicate →
    ∃ node, schema.graph.get? id = some node ∧ (compiler.compileNode id node).Yields
      (fun question answer => ∃ target, progress.finished.lookup question = some target ∧
        (answer = target ∨ ∃ index content, answer = .slot index ∧
          progress.slots[index]? = some (question, content) ∧ validator.slots[index]? = some target)) predicate

theorem made_of_captures (hsound : Sound compiler graph [] progress) {index : Nat} (h : predicate.Captures index) :
    ∀ id, progress.Stands id predicate → index < progress.slots.length := by
  induction h with
  | slot index =>
    rintro id (hfin | ⟨other, content, hother, hslot⟩)
    · obtain ⟨node, _, hmade⟩ := hsound.made id _ hfin
      rcases yields_compileNode hmade with ⟨valid, _, hpred⟩ | ⟨_, checks, hpred, _⟩ <;> cases hpred
    · cases hother
      exact (List.getElem?_eq_some_iff.mp hslot).1
  | @all checks check part index hcheck hpart _ ih =>
    rintro id (hfin | ⟨other, content, hother, hslot⟩)
    · obtain ⟨node, _, hmade⟩ := hsound.made id _ hfin
      rcases yields_compileNode hmade with ⟨valid, _, hpred⟩ | ⟨_, checks, hpred, hall⟩
      · cases hpred
      · cases hpred
        obtain ⟨first, _, hagrees⟩ := Check.exists_of_forall₂_of_mem hall hcheck
        obtain ⟨question, _, hstands⟩ := Check.exists_of_forall₂_of_mem hagrees.schemas hpart
        exact ih question hstands
    · cases hother

theorem compile_linked {schema : Schema} {validator : Validator} (h : compiler.compile schema = .ok validator) :
    ∃ progress, Linked compiler schema progress validator := by
  obtain ⟨progress, hrun, _, hall⟩ := compile_cases h
  obtain ⟨hsound, hroot⟩ := run_sound hrun
  have hslots := tabled_of_forall₂ hall
  refine ⟨progress, hrun, ?_, hall.length_eq.symm, hsound.owners, hslots, ?_, ?_⟩
  · intro id
    have hdone : progress.Finished id ↔ Progress.Finished {} id ∨ id ∈ compiler.bodiesOf schema :=
      (runsOnce_bodies _ (sound_empty compiler schema.graph)).2 _ _ hrun id
    simpa [Progress.Finished] using hdone
  · intro predicate hwhere index hcaptures
    rw [← hall.length_eq]
    rcases hwhere with rfl | hmem | ⟨id, hfin⟩
    · exact made_of_captures hsound hcaptures _ hroot
    · obtain ⟨slot, _, _, hfin⟩ := Check.exists_of_forall₂_of_mem hall hmem
      exact made_of_captures hsound hcaptures _ (.inl hfin)
    · exact made_of_captures hsound hcaptures _ (.inl hfin)
  · intro id predicate hfin
    obtain ⟨node, hnode, hmade⟩ := hsound.made id predicate hfin
    refine ⟨node, hnode, hmade.mono ?_⟩
    rintro question answer (hfin' | ⟨index, content, rfl, hslot⟩)
    · exact ⟨answer, hfin', .inl rfl⟩
    · obtain ⟨target, htarget, hfilled⟩ := hslots index question content hslot
      exact ⟨target, htarget, .inr ⟨index, content, rfl, hslot, hfilled⟩⟩

/-- Slots are safe. Whatever the graph and the choice of constraints, a build runs each body at most once and only of
nodes of the graph, and fails only through a fault of the schema; when it succeeds, its slots are in order. -/
theorem compile_slots_safe (hbuiltin : ∀ constraint ∈ compiler.constraints, constraint ∈ Constraint.builtin)
    (schema : Schema) :
    RunsOnce schema.graph [] {} (compiler.bodiesOf schema) ∧
    (compiler.bodiesOf schema).length ≤ schema.graph.size ∧
    (∀ error, compiler.compile schema = .error error → IsSchemaFault schema.graph error) ∧
    (∀ validator, compiler.compile schema = .ok validator →
      ∃ progress, Linked compiler schema progress validator) := by
  refine ⟨runsOnce_bodiesOf compiler schema, length_bodiesOf_le compiler schema, ?_, ?_⟩
  · exact fun _ herror => compile_fault hbuiltin herror
  · exact fun _ hok => compile_linked hok

def mutualPair : Schema where
  graph := ⟨#[{ properties := [("child", ⟨1⟩)] }, { allOf := some [⟨0⟩], not := some ⟨0⟩ }]⟩
  root := ⟨0⟩

theorem compile_slots_safe_mutualPair :
    let compiler : Compiler := { engine := fun _ => none, constraints := [Constraint.not, .properties, .allOf] }
    (∀ constraint ∈ compiler.constraints, constraint ∈ Constraint.builtin) ∧
    compiler.bodiesOf mutualPair = [⟨0⟩, ⟨1⟩] ∧
    (compiler.compile mutualPair).toOption.map Validator.slotCount = some 1 ∧
    ∀ validator, compiler.compile mutualPair = .ok validator →
      ∃ progress, Linked compiler mutualPair progress validator := by
  intro compiler
  have hbuiltin : ∀ constraint ∈ compiler.constraints, constraint ∈ Constraint.builtin := by
    intro constraint hmem
    simp only [compiler, List.mem_cons, List.not_mem_nil, or_false] at hmem
    rcases hmem with rfl | rfl | rfl <;> simp [Constraint.builtin]
  exact ⟨hbuiltin, by decide, by decide, (compile_slots_safe hbuiltin mutualPair).2.2.2⟩

end Compiler

end JsonSchema
