import JsonSchema.Proofs.Linking.Object
import JsonSchema.Proofs.Linking.Resolution
import JsonSchema.Reader

/-!
What one visit of a place does, case by case, in terms of the visits of the places inside of it. All that holds of
linking is shown from these cases.
-/
namespace JsonSchema

namespace Inquiry

variable {α : Type} {respond : Visit → Linking SchemaId} {x : Reading α} {first last : LinkState}

def Answers (respond : Visit → Linking SchemaId) (visit : Visit) (state : LinkState) (id : SchemaId)
    (next : LinkState) : Prop :=
  Linking.run (respond visit) state = some (.ok id, next)

theorem reaches_of_run_ok {value : α} (h : Linking.run (x.run respond) first = some (.ok value, last)) :
    Reaches (Answers respond) x first (.done value) last := by
  induction x generalizing first with
  | done other =>
    cases h
    exact .refl _ _
  | fail error => cases h
  | ask visit next ih =>
    rw [Inquiry.run, Linking.run_bind] at h
    cases hrun : Linking.run (respond visit) first with
    | none => simp [hrun] at h
    | some outcome =>
      obtain ⟨_ | id, after⟩ := outcome
      · simp [hrun] at h
      · exact .ask hrun (ih id (by simpa [hrun] using h))

theorem reaches_of_run_error {error : ReadError} (h : Linking.run (x.run respond) first = some (.error error, last)) :
    ∃ rest state, Reaches (Answers respond) x first rest state ∧
      ((rest = .fail error ∧ state = last) ∨
        ∃ visit next, rest = .ask visit next ∧ Linking.run (respond visit) state = some (.error error, last)) := by
  induction x generalizing first with
  | done other => cases h
  | fail other =>
    cases h
    exact ⟨_, _, .refl _ _, .inl ⟨rfl, rfl⟩⟩
  | ask visit next ih =>
    rw [Inquiry.run, Linking.run_bind] at h
    cases hrun : Linking.run (respond visit) first with
    | none => simp [hrun] at h
    | some outcome =>
      obtain ⟨_ | id, after⟩ := outcome
      · simp only [hrun, Option.some.injEq, Prod.mk.injEq, Except.error.injEq] at h
        obtain ⟨rfl, rfl⟩ := h
        exact ⟨_, _, .refl _ _, .inr ⟨visit, next, rfl, hrun⟩⟩
      · have hafter : Linking.run ((next id).run respond) after = some (.error error, last) := by simpa [hrun] using h
        obtain ⟨rest, state, hreach, hrest⟩ := ih id hafter
        exact ⟨rest, state, .ask hrun hreach, hrest⟩

theorem reaches_of_run_none (h : Linking.run (x.run respond) first = none) :
    ∃ visit next state, Reaches (Answers respond) x first (.ask visit next) state ∧
      Linking.run (respond visit) state = none := by
  induction x generalizing first with
  | done other => cases h
  | fail other => cases h
  | ask visit next ih =>
    rw [Inquiry.run, Linking.run_bind] at h
    cases hrun : Linking.run (respond visit) first with
    | none => exact ⟨visit, next, first, .refl _ _, hrun⟩
    | some outcome =>
      obtain ⟨_ | id, after⟩ := outcome
      · simp [hrun] at h
      · have hafter : Linking.run ((next id).run respond) after = none := by simpa [hrun] using h
        obtain ⟨visit', next', state, hreach, hnone⟩ := ih id hafter
        exact ⟨visit', next', state, .ask hrun hreach, hnone⟩

end Inquiry

namespace LinkState

def withNode (state : LinkState) (location : Location) (node : SchemaNode) : LinkState :=
  { state with graph := (state.graph.add node).2 }.locate location ⟨state.graph.size⟩

def opening (state : LinkState) (location : Location) : LinkState := state.withNode location {}

def setOut (state : LinkState) (location : Location) : LinkState :=
  { state with underway := location :: state.underway }

def arrive (state : LinkState) (location : Location) (id : SchemaId) : LinkState :=
  { state.locate location id with underway := state.underway.erase location }

/-- The draft address that a reference passes on: its own within the document, and else that of the other document if
there is one. -/
def passOn (state : LinkState) (location target : Location) (inherited : Option String) : Option String :=
  if target.document = location.document then inherited else (state.versionOf target.document).or inherited

/-- What stands at a place is neither a boolean nor an object without a reference. -/
def HoldsNoSchema (state : LinkState) (location : Location) : Prop :=
  (∀ valid, state.valueAt? location ≠ some (.bool valid)) ∧
    ∀ members, state.valueAt? location = some (.object members) → Members.find? members Keyword.reference.name ≠ none

def complete (state : LinkState) (id : SchemaId) (node : SchemaNode) : LinkState :=
  { state with graph := state.graph.set id node }

end LinkState

namespace Linking

open LinkState

abbrev Outcome (α : Type) := Option (Except ReadError α × LinkState)

def Outcome.andThen {α β : Type} (outcome : Outcome α) (next : α → LinkState → β × LinkState) : Outcome β :=
  outcome.map fun (result, state) =>
    match result with
    | .ok value => (.ok (next value state).1, (next value state).2)
    | .error error => (.error error, state)

/-- What a visit of a place comes to, with a way to visit other places. -/
inductive Visits (source : LinkSource) (visit : Visit → Linking SchemaId) (location : Location)
    (inherited : Option String) (state : LinkState) : Outcome SchemaId → Prop
  /-- The place has a node. -/
  | known {id : SchemaId} : state.nodeAt? location = some id →
    Visits source visit location inherited state (some (.ok id, state))
  /-- There is no schema at the place. -/
  | fault {error : ReadError} : state.nodeAt? location = none → state.refAt? location = none → error.IsPlain →
    state.HoldsNoSchema location → Visits source visit location inherited state (some (.error error, state))
  | boolean {valid : Bool} : state.nodeAt? location = none → state.valueAt? location = some (.bool valid) →
    Visits source visit location inherited state
      (some (.ok ⟨state.graph.size⟩, state.withNode location (.boolean valid)))
  | object {members : Members Json} : state.nodeAt? location = none →
    state.valueAt? location = some (.object members) → Members.find? members Keyword.reference.name = none →
    Visits source visit location inherited state
      (Outcome.andThen (run ((readObject location members inherited).run visit) (state.opening location))
        fun node next => (⟨state.graph.size⟩, next.complete ⟨state.graph.size⟩ node))
  /-- The reference at the place names no place. -/
  | unresolved {reference : String} {next : LinkState} {error : ReadError} : state.nodeAt? location = none →
    state.refAt? location = some reference → Loads source state next →
    next.resolve? source.rules location reference = none → error.IsPlain →
    next.Consulted source location.document (splitFragment reference).1 →
    Visits source visit location inherited state (some (.error error, next))
  /-- The reference names a place that has a node. -/
  | shared {reference : String} {next : LinkState} {target : Location} {id : SchemaId} :
    state.nodeAt? location = none → state.refAt? location = some reference → Loads source state next →
    next.resolve? source.rules location reference = some target → next.nodeAt? target = some id →
    Visits source visit location inherited state (some (.ok id, next.locate location id))
  /-- The reference is being followed already. -/
  | circular {reference : String} {next : LinkState} {target : Location} : state.nodeAt? location = none →
    state.refAt? location = some reference → Loads source state next →
    next.resolve? source.rules location reference = some target → next.nodeAt? target = none →
    location ∈ next.underway →
    Visits source visit location inherited state (some (.error (.circularReference reference location.pointer), next))
  | followed {reference : String} {next : LinkState} {target : Location} {version : Option String} :
    state.nodeAt? location = none → state.refAt? location = some reference → Loads source state next →
    next.resolve? source.rules location reference = some target → next.nodeAt? target = none →
    location ∉ next.underway → version = next.passOn location target inherited →
    Visits source visit location inherited state
      (Outcome.andThen (run (visit ⟨target, version⟩) (next.setOut location))
        fun id after => (id, after.arrive location id))

variable {source : LinkSource} {visit : Visit → Linking SchemaId} {location : Location} {inherited : Option String}
  {state : LinkState}

theorem run_follow (reference : String) :
    run (follow source visit location reference inherited) state =
      match run (target source location reference) state with
      | none => none
      | some (.error error, next) => some (.error error, next)
      | some (.ok target, next) =>
        match next.nodeAt? target with
        | some id => some (.ok id, next.locate location id)
        | none =>
          if location ∈ next.underway then some (.error (.circularReference reference location.pointer), next)
          else
            Outcome.andThen (run (visit ⟨target, next.passOn location target inherited⟩) (next.setOut location))
              fun id after => (id, after.arrive location id) := by
  simp only [follow, run_bind, run_get]
  cases run (target source location reference) state with
  | none => rfl
  | some outcome =>
    obtain ⟨_ | target, next⟩ := outcome
    · rfl
    · simp only
      cases next.nodeAt? target with
      | some id => rfl
      | none =>
        by_cases hunderway : location ∈ next.underway
        · simp [hunderway]
        · simp only [hunderway, if_false, run_bind, run_set, passOn, setOut, Outcome.andThen]
          cases run (visit _) _ with
          | none => rfl
          | some outcome => obtain ⟨_ | id, after⟩ := outcome <;> rfl

theorem run_readPlace :
    run (readPlace source visit location inherited) state =
      match state.valueAt? location with
      | none => some (.error (.invalidPointer location.pointer), state)
      | some (.bool valid) => some (.ok ⟨state.graph.size⟩, state.withNode location (.boolean valid))
      | some (.object members) =>
        match Members.find? members Keyword.reference.name with
        | some (.string reference) => run (follow source visit location reference inherited) state
        | some _ => some (.error (.invalidKeyword .reference location.pointer .string), state)
        | none =>
          Outcome.andThen (run ((readObject location members inherited).run visit) (state.opening location))
            fun node next => (⟨state.graph.size⟩, next.complete ⟨state.graph.size⟩ node)
      | some other => some (.error (.notASchema location.pointer (.ofValue other)), state) := by
  simp only [readPlace, run_bind, run_get]
  cases state.valueAt? location with
  | none => rfl
  | some value =>
    cases value with
    | bool valid => rfl
    | object members =>
      dsimp only
      cases Members.find? members Keyword.reference.name with
      | some reference => cases reference <;> rfl
      | none =>
        simp only [run_bind, run_set, SchemaGraph.reserve, SchemaGraph.add, opening, withNode, Outcome.andThen]
        cases run ((readObject location members inherited).run visit) _ with
        | none => rfl
        | some outcome => obtain ⟨_ | node, after⟩ := outcome <;> rfl
    | _ => rfl

theorem visits_follow (hcanonical : source.Canonical) (hnode : state.nodeAt? location = none) {reference : String}
    (href : state.refAt? location = some reference) :
    Visits source visit location inherited state (run (follow source visit location reference inherited) state) := by
  obtain ⟨next, hloads, ⟨target, hresolve, hrun⟩ | ⟨hresolve, hconsulted, error, hplain, hrun⟩⟩ :=
    run_target hcanonical (isSome_valueAt?_of_refAt? href) reference
  · rw [run_follow, hrun]
    dsimp only
    cases hid : next.nodeAt? target with
    | some id => exact .shared hnode href hloads hresolve hid
    | none =>
      dsimp only
      split
      · rename_i hunderway
        exact .circular hnode href hloads hresolve hid hunderway
      · rename_i hunderway
        exact .followed hnode href hloads hresolve hid hunderway rfl
  · rw [run_follow, hrun]
    exact .unresolved hnode href hloads hresolve hplain hconsulted

theorem visits_readPlace (hcanonical : source.Canonical) (hnode : state.nodeAt? location = none) :
    Visits source visit location inherited state (run (readPlace source visit location inherited) state) := by
  rw [run_readPlace]
  cases hvalue : state.valueAt? location with
  | none =>
    exact .fault hnode (by simp [refAt?, hvalue]) (by simp [ReadError.IsPlain]) (by simp [HoldsNoSchema, hvalue])
  | some value =>
    cases value with
    | bool valid => exact .boolean hnode hvalue
    | object members =>
      dsimp only
      have href : state.refAt? location = (Members.find? members Keyword.reference.name).bind Json.string? := by
        simp [refAt?, hvalue, Json.member?]
      cases hmember : Members.find? members Keyword.reference.name with
      | none => exact .object hnode hvalue hmember
      | some reference =>
        rw [hmember] at href
        cases reference with
        | string reference => exact visits_follow hcanonical hnode href
        | _ => exact .fault hnode href (fun _ _ => ReadError.noConfusion) (by simp [HoldsNoSchema, hvalue, hmember])
    | _ =>
      refine .fault hnode (by simp [refAt?, hvalue, Json.member?]) (by simp [ReadError.IsPlain]) ?_
      simp [HoldsNoSchema, hvalue]

theorem run_visit (rounds : Nat) :
    run (Linking.visit source (rounds + 1) ⟨location, inherited⟩) state =
      match state.nodeAt? location with
      | some id => some (.ok id, state)
      | none => run (readPlace source (Linking.visit source rounds) location inherited) state := by
  rw [Linking.visit, run_bind, run_get]
  cases hnode : state.nodeAt? location <;> simp [hnode]

theorem visit_cases (hcanonical : source.Canonical) (rounds : Nat) (location : Location) (inherited : Option String)
    (state : LinkState) :
    Visits source (Linking.visit source rounds) location inherited state
      (run (Linking.visit source (rounds + 1) ⟨location, inherited⟩) state) := by
  rw [run_visit]
  cases hnode : state.nodeAt? location with
  | some id => exact .known hnode
  | none => exact visits_readPlace hcanonical hnode

end Linking

end JsonSchema
