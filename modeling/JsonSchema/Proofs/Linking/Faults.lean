import JsonSchema.Proofs.Linking.Questions
import JsonSchema.Proofs.Paths

/-!
The visits that reading makes, and why it fails. Wherever reading goes something stands in the documents met so far:
inside of an object it goes to values of members, and a reference is followed only to a place that is there. A read
that fails does so at one of its visits, for what stands at the place of that visit.
-/
namespace JsonSchema

namespace Json

theorem Pointer.follow?_append (steps more : List (List Char)) (value : Json) :
    follow? (steps ++ more) value = (follow? steps value).bind (follow? more) := by
  induction steps generalizing value with
  | nil => rfl
  | cons step rest ih =>
    rw [List.cons_append, follow?, follow?]
    cases part? step value with
    | none => rfl
    | some part => exact ih part

theorem at?_foldl_push (value : Json) (pointer : String) (steps : List String) :
    value.at? (steps.foldl Pointer.push pointer) =
      (value.at? pointer).bind (Pointer.follow? (steps.map String.toList)) := by
  rw [at?, at?, Pointer.segments?_foldl_push_of, Option.bind_map, Option.bind_assoc]
  exact congrArg _ (funext fun segments => Pointer.follow?_append segments _ value)

variable {members : Members Json} {keyword : Keyword} {value : Json} {steps : List String}

/-- Steps lead from an object to a part of the value of a keyword. -/
def StepsInto (keyword : Keyword) (value : Json) (steps : List String) : Prop :=
  ∃ path part, along? path value = some part ∧ steps = keyword.name :: path.map Step.text

theorem stepsInto_of_mem_places (h : steps ∈ keyword.places value) : StepsInto keyword value steps := by
  have hself (h : steps = [keyword.name]) : StepsInto keyword value steps := ⟨[], value, rfl, h⟩
  have hindexed (h : steps ∈ keyword.indexed value) : StepsInto keyword value steps := by
    obtain ⟨index, hindex, rfl⟩ := List.mem_map.mp h
    cases value with
    | array items =>
      have hlt : index < items.length := List.mem_range.mp hindex
      exact ⟨[.item index], items[index], by simp [along?, Step.part?, hlt], rfl⟩
    | _ => simp [items?] at hindex
  have hnamed {others : Members Json} {name : String} (hvalue : value = .object others)
      (hname : name ∈ Members.names others) (h : steps = [keyword.name, name]) : StepsInto keyword value steps := by
    obtain ⟨part, hpart⟩ := Members.exists_find?_of_mem hname
    exact ⟨[.member name], part, by simp [along?, Step.part?, hvalue, hpart], h⟩
  have hmembers (h : steps ∈ keyword.named value) : StepsInto keyword value steps := by
    obtain ⟨⟨name, other⟩, hmem, hsteps⟩ := List.mem_map.mp h
    cases value with
    | object others => exact hnamed rfl (List.mem_map_of_mem hmem) hsteps.symm
    | _ => simp [members?] at hmem
  cases keyword with
  | allOf | anyOf | oneOf => exact hindexed h
  | extending | items =>
    cases value with
    | array items => exact hindexed h
    | _ => exact hself (by simpa [Keyword.places] using h)
  | not | condition | consequence | alternative | contains | propertyNames =>
    exact hself (by simpa [Keyword.places] using h)
  | additionalItems | additionalProperties =>
    cases value with
    | object others => exact hself (by simpa [Keyword.places, Keyword.ifObject] using h)
    | _ => simp [Keyword.places, Keyword.ifObject] at h
  | properties | patternProperties => exact hmembers h
  | dependencies =>
    obtain ⟨⟨name, other⟩, hmem, hsteps⟩ := List.mem_flatMap.mp h
    cases value with
    | object others =>
      refine hnamed rfl (List.mem_map_of_mem hmem) ?_
      cases other with
      | bool | object => simpa [Keyword.dependency] using hsteps
      | _ => simp [Keyword.dependency] at hsteps
    | _ => simp [members?] at hmem
  | _ => simp [Keyword.places] at h

end Json

namespace LinkState

variable {source : LinkSource} {state first second third now final : LinkState} {location : Location}

/-- Documents that were met stay where they are, and others come from the source. -/
structure Gathers (source : LinkSource) (first second : LinkState) : Prop where
  documents : first.documents <+: second.documents
  found : ∀ document ∈ second.documents, document ∈ first.documents ∨
    ∃ address, source.documents.find? source.rules address = some document.root

namespace Gathers

theorem of_same (h : second.documents = first.documents) : Gathers source first second :=
  ⟨h ▸ List.prefix_refl _, fun _ hmem => .inl (h ▸ hmem)⟩

theorem trans (h : Gathers source first second) (h' : Gathers source second third) : Gathers source first third := by
  refine ⟨h.documents.trans h'.documents, fun document hmem => ?_⟩
  rcases h'.found document hmem with hmem | hfound
  · exact h.found document hmem
  · exact .inr hfound

theorem valueAt? (h : Gathers source first second) {value : Json} (hvalue : first.valueAt? location = some value) :
    second.valueAt? location = some value := by
  obtain ⟨document, hdocument, hat⟩ := Option.bind_eq_some_iff.mp hvalue
  obtain ⟨more, hmore⟩ := h.documents
  obtain ⟨hlt, _⟩ := List.getElem?_eq_some_iff.mp hdocument
  rw [LinkState.valueAt?, ← hmore, List.getElem?_append_left hlt, hdocument, Option.bind_some, hat]

theorem refAt? (h : Gathers source first second) {reference : String}
    (href : first.refAt? location = some reference) : second.refAt? location = some reference := by
  obtain ⟨value, hvalue, hmember⟩ := Option.bind_eq_some_iff.mp href
  rw [LinkState.refAt?, h.valueAt? hvalue, Option.bind_some, hmember]

end Gathers

def AllValid (state : LinkState) : Prop := ∀ document ∈ state.documents, document.root.Valid

theorem AllValid.gathers (h : first.AllValid) (hgathers : Gathers source first second)
    (hsource : ∀ address root, source.documents.find? source.rules address = some root → root.Valid) :
    second.AllValid := by
  intro document hmem
  rcases hgathers.found document hmem with hmem | ⟨address, hfound⟩
  · exact h document hmem
  · exact hsource address document.root hfound

theorem AllValid.valueAt? (h : state.AllValid) {value : Json} (hvalue : state.valueAt? location = some value) :
    value.Valid := by
  obtain ⟨document, hdocument, hat⟩ := Option.bind_eq_some_iff.mp hvalue
  exact (h document (List.mem_of_getElem? hdocument)).at? hat

theorem AllValid.isSome_valueAt?_child (h : state.AllValid) {members : Members Json}
    (hvalue : state.valueAt? location = some (.object members)) {keyword : Keyword} {value : Json}
    (hmem : (keyword.name, value) ∈ members) {steps : List String} (hsteps : steps ∈ keyword.places value) :
    (state.valueAt? (location.child steps)).isSome := by
  have hnodup := (Json.valid_object.mp (h.valueAt? hvalue)).1
  obtain ⟨path, part, hpath, rfl⟩ := Json.stepsInto_of_mem_places hsteps
  have halong : Json.along? (.member keyword.name :: path) (.object members) = some part := by
    simp [Json.along?, Json.Step.part?, Members.find?_of_mem hnodup hmem, hpath]
  obtain ⟨document, hdocument, hat⟩ := Option.bind_eq_some_iff.mp hvalue
  have hfollow := Json.follow?_of_along? halong
  rw [LinkState.valueAt?, Location.child, hdocument, Option.bind_some, Json.at?_foldl_push, hat, Option.bind_some]
  rw [List.map_cons, List.map_map]
  exact Option.isSome_of_eq_some hfollow

end LinkState

namespace Linking

open LinkState

variable {source : LinkSource} {state next now final : LinkState} {location target : Location} {rounds : Nat}
  {place other : Visit} {error : ReadError}

theorem gathers_document? {origin : Nat} {address : String} {result : Except ReadError (Option Nat)}
    (h : run (document? source origin address) state = some (result, next)) :
    Gathers source state next ∧ ∃ number, result = .ok number := by
  simp only [document?, run_bind, run_get] at h
  split at h
  · cases h
    exact ⟨.of_same rfl, _, rfl⟩
  · split at h
    · cases h
      exact ⟨.of_same rfl, _, rfl⟩
    · rename_i root hfound
      cases h
      obtain ⟨document, _, hroot, _, _, heq, _⟩ := takeUp_cases state source.rules
        (some (targetAddress source.rules (state.baseOf origin) address)) root
      refine ⟨⟨?_, fun other hmem => ?_⟩, _, rfl⟩
      · rw [heq]
        exact List.prefix_append _ _
      · rw [heq] at hmem
        rcases List.mem_append.mp hmem with hmem | hmem
        · exact .inl hmem
        · obtain rfl := List.mem_singleton.mp hmem
          exact .inr ⟨_, hroot ▸ hfound⟩

/-- A reference leads to a place that is there, or else it names none or has no pointer. -/
inductive Targets (location : Location) (reference : String) (next : LinkState) : Except ReadError Location → Prop
  | found {target : Location} : (next.valueAt? target).isSome → Targets location reference next (.ok target)
  | unresolved : Targets location reference next (.error (.unresolvedReference reference location.pointer))
  | noPointer {pointer : String} : pointer = Percent.decode ((splitFragment reference).2.getD "") →
    Json.Pointer.segments? pointer.toList = none → Targets location reference next (.error (.invalidPointer pointer))

theorem targets_placeIn {number : Nat} {reference : String} {result : Except ReadError Location}
    (h : run (placeIn number ((splitFragment reference).2.getD "") (.unresolvedReference reference location.pointer))
      state = some (result, next)) : next = state ∧ Targets location reference next result := by
  rw [run_placeIn] at h
  split at h
  · rename_i hvalue
    cases h
    exact ⟨rfl, .found hvalue⟩
  · split at h
    · rename_i hpointer
      cases h
      exact ⟨rfl, .noPointer rfl (Option.isNone_iff_eq_none.mp hpointer)⟩
    · cases h
      exact ⟨rfl, .unresolved⟩

theorem targets_target {reference : String} {result : Except ReadError Location}
    (h : run (Linking.target source location reference) state = some (result, next)) :
    Gathers source state next ∧ Targets location reference next result := by
  rw [Linking.target] at h
  split at h
  rename_i address fragment hsplit
  obtain rfl : fragment = (splitFragment reference).2 := by rw [hsplit]
  split at h
  · obtain ⟨rfl, htargets⟩ := targets_placeIn h
    exact ⟨.of_same rfl, htargets⟩
  · rw [run_bind] at h
    split at h
    · cases h
    · rename_i hdocument
      obtain ⟨_, _, hok⟩ := gathers_document? hdocument
      cases hok
    · rename_i number between hdocument
      obtain ⟨hgathers, _⟩ := gathers_document? hdocument
      cases number with
      | none =>
        cases h
        exact ⟨hgathers, .unresolved⟩
      | some number =>
        obtain ⟨rfl, htargets⟩ := targets_placeIn h
        exact ⟨hgathers, htargets⟩

/-- The visits that reading makes: the first one, from an object those of the schemas that it asks for, and from a
reference that of the place that it names; each with the state that reading has come to by then. -/
inductive Makes (source : LinkSource) : Nat → Visit → LinkState → Visit → LinkState → Prop
  | self {rounds : Nat} {place : Visit} {state : LinkState} : Makes source rounds place state place state
  | inside {rounds : Nat} {location : Location} {inherited : Option String} {state now last : LinkState}
    {members : Members Json} {question other : Visit} {next : SchemaId → Reading SchemaNode} :
    state.nodeAt? location = none → state.valueAt? location = some (.object members) →
    Members.find? members Keyword.reference.name = none →
    Inquiry.Reaches (Inquiry.Answers (visit source rounds)) (readObject location members inherited)
      (state.opening location) (.ask question next) now →
    Makes source rounds question now other last → Makes source (rounds + 1) ⟨location, inherited⟩ state other last
  | along {rounds : Nat} {location target : Location} {inherited : Option String} {state next last : LinkState}
    {reference : String} {other : Visit} :
    state.nodeAt? location = none → state.refAt? location = some reference →
    run (Linking.target source location reference) state = some (.ok target, next) → next.nodeAt? target = none →
    location ∉ next.underway →
    Makes source rounds ⟨target, next.passOn location target inherited⟩ (next.setOut location) other last →
    Makes source (rounds + 1) ⟨location, inherited⟩ state other last

/-- Why the visit of a place fails, apart from the visits that it makes in turn. -/
inductive FailsAt (state : LinkState) (location : Location) : ReadError → Prop
  | missing : state.valueAt? location = none → FailsAt state location (.invalidPointer location.pointer)
  | faulty {value : Json} {error : ReadError} : state.valueAt? location = some value →
    error.pointer = location.pointer → error.HoldsOf value → FailsAt state location error
  | noPointer {reference pointer : String} : state.refAt? location = some reference →
    pointer = Percent.decode ((splitFragment reference).2.getD "") → Json.Pointer.segments? pointer.toList = none →
    FailsAt state location (.invalidPointer pointer)

/-- What visits come with: more documents, and a fault only at one of the visits that are made. -/
def Accounted (source : LinkSource) (rounds : Nat) (place : Visit) (state : LinkState)
    (result : Except ReadError SchemaId) (final : LinkState) : Prop :=
  Gathers source state final ∧ ∀ error, result = .error error →
    ∃ other now, Makes source rounds place state other now ∧ Gathers source now final ∧
      FailsAt now other.location error

theorem Accounted.ok {id : SchemaId} (h : Gathers source state final) :
    Accounted source rounds place state (.ok id) final := ⟨h, by simp⟩

theorem Accounted.here (hgathers : Gathers source state final) (hfails : FailsAt state place.location error) :
    Accounted source rounds place state (.error error) final := by
  refine ⟨hgathers, ?_⟩
  rintro _ ⟨⟩
  exact ⟨place, state, .self, hgathers, hfails⟩

theorem gathers_reaches {α : Type} {x rest : Reading α} {visit : Visit → Linking SchemaId}
    (hvisit : ∀ place state result final, run (visit place) state = some (result, final) → Gathers source state final)
    (h : Inquiry.Reaches (Inquiry.Answers visit) x state rest final) : Gathers source state final := by
  induction h with
  | refl => exact .of_same rfl
  | ask hanswers _ ih => exact (hvisit _ _ _ _ hanswers).trans ih

theorem accounted_object {members : Members Json} {inherited : Option String} {result : Except ReadError SchemaId}
    (hnode : state.nodeAt? location = none) (hvalue : state.valueAt? location = some (.object members))
    (href : Members.find? members Keyword.reference.name = none)
    (hvisit : ∀ place state result final, run (visit source rounds place) state = some (result, final) →
      Accounted source rounds place state result final)
    (h : Outcome.andThen (run ((readObject location members inherited).run (visit source rounds))
        (state.opening location)) (fun node next => (⟨state.graph.size⟩, next.complete ⟨state.graph.size⟩ node)) =
      some (result, final)) : Accounted source (rounds + 1) ⟨location, inherited⟩ state result final := by
  have hgathers {rest : Reading SchemaNode} {now : LinkState}
      (hreach : Inquiry.Reaches (Inquiry.Answers (visit source rounds)) (readObject location members inherited)
        (state.opening location) rest now) : Gathers source state now := by
    have hopening : Gathers source state (state.opening location) := .of_same rfl
    exact hopening.trans (gathers_reaches (fun _ _ _ _ hrun => (hvisit _ _ _ _ hrun).1) hreach)
  obtain ⟨⟨_ | node, last⟩, hrun, heq⟩ := Option.map_eq_some_iff.mp h
  · cases heq
    obtain ⟨rest, now, hreach, ⟨rfl, rfl⟩ | ⟨question, next, rfl, hfail⟩⟩ := Inquiry.reaches_of_run_error hrun
    · have hown := hreach.failsOnly (failsOnly_readObject location members inherited)
      exact .here (hgathers hreach) (.faulty hvalue hown.pointer hown.holds)
    · obtain ⟨hmore, hfault⟩ := hvisit _ _ _ _ hfail
      refine ⟨(hgathers hreach).trans hmore, fun error herror => ?_⟩
      obtain ⟨other, later, hmakes, hlast, hfails⟩ := hfault error herror
      exact ⟨other, later, .inside hnode hvalue href hreach hmakes, hlast, hfails⟩
  · cases heq
    have hcomplete : Gathers source last (last.complete ⟨state.graph.size⟩ node) := .of_same rfl
    exact .ok ((hgathers (Inquiry.reaches_of_run_ok hrun)).trans hcomplete)

theorem accounted_follow {reference : String} {inherited : Option String} {result : Except ReadError SchemaId}
    (hnode : state.nodeAt? location = none) {members : Members Json}
    (hvalue : state.valueAt? location = some (.object members))
    (hmember : Members.find? members Keyword.reference.name = some (.string reference))
    (hvisit : ∀ place state result final, run (visit source rounds place) state = some (result, final) →
      Accounted source rounds place state result final)
    (h : run (follow source (visit source rounds) location reference inherited) state = some (result, final)) :
    Accounted source (rounds + 1) ⟨location, inherited⟩ state result final := by
  have href : state.refAt? location = some reference := by simp [refAt?, hvalue, Json.member?, hmember, Json.string?]
  have hholds : (Json.object members).Has Keyword.reference.name (.string reference) :=
    ⟨members, rfl, Members.mem_of_find? hmember⟩
  rw [run_follow] at h
  split at h
  · cases h
  · rename_i error next htarget
    cases h
    obtain ⟨hgathers, htargets⟩ := targets_target htarget
    cases htargets with
    | unresolved => exact .here hgathers (.faulty hvalue rfl hholds)
    | noPointer hpointer hsegments => exact .here hgathers (.noPointer href hpointer hsegments)
  · rename_i target next htarget
    obtain ⟨hgathers, _⟩ := targets_target htarget
    split at h
    · rename_i id _
      cases h
      have hlocate : Gathers source next (next.locate location id) := .of_same rfl
      exact .ok (hgathers.trans hlocate)
    · rename_i hfresh
      split at h
      · cases h
        exact .here hgathers (.faulty hvalue rfl hholds)
      · rename_i hunderway
        have hsetOut : Gathers source next (next.setOut location) := .of_same rfl
        obtain ⟨⟨_ | id, last⟩, hrun, heq⟩ := Option.map_eq_some_iff.mp h
        · cases heq
          obtain ⟨hmore, hfault⟩ := hvisit _ _ _ _ hrun
          refine ⟨hgathers.trans (hsetOut.trans hmore), fun error herror => ?_⟩
          obtain ⟨other, now, hmakes, hlast, hfails⟩ := hfault error herror
          exact ⟨other, now, .along hnode href htarget hfresh hunderway hmakes, hlast, hfails⟩
        · cases heq
          obtain ⟨hmore, _⟩ := hvisit _ _ _ _ hrun
          have harrive : Gathers source last (last.arrive location id) := .of_same rfl
          exact .ok (hgathers.trans (hsetOut.trans (hmore.trans harrive)))

/-- Visits come with more documents, and fail only at one of the visits that are made. -/
theorem visit_accounted {result : Except ReadError SchemaId}
    (h : run (visit source rounds place) state = some (result, final)) :
    Accounted source rounds place state result final := by
  induction rounds generalizing place state result final with
  | zero => cases h
  | succ rounds ih =>
    obtain ⟨location, inherited⟩ := place
    rw [run_visit] at h
    cases hnode : state.nodeAt? location with
    | some id =>
      rw [hnode] at h
      cases h
      exact .ok (.of_same rfl)
    | none =>
      rw [hnode] at h
      dsimp only at h
      rw [run_readPlace] at h
      cases hvalue : state.valueAt? location with
      | none =>
        rw [hvalue] at h
        cases h
        exact .here (.of_same rfl) (.missing hvalue)
      | some value =>
        rw [hvalue] at h
        cases value with
        | bool valid =>
          cases h
          exact .ok (.of_same rfl)
        | object members =>
          dsimp only at h
          cases hmember : Members.find? members Keyword.reference.name with
          | none =>
            rw [hmember] at h
            exact accounted_object hnode hvalue hmember (fun _ _ _ _ hrun => ih hrun) h
          | some reference =>
            rw [hmember] at h
            cases reference with
            | string reference => exact accounted_follow hnode hvalue hmember (fun _ _ _ _ hrun => ih hrun) h
            | _ =>
              cases h
              have hmem := Members.mem_of_find? hmember
              exact .here (.of_same rfl) (.faulty hvalue rfl ⟨_, members, rfl, hmem⟩)
        | _ =>
          cases h
          exact .here (.of_same rfl) (.faulty hvalue rfl ⟨rfl, fun _ => Json.noConfusion, fun _ => Json.noConfusion⟩)

theorem isSome_valueAt?_of_makes (hsource : ∀ address root,
      source.documents.find? source.rules address = some root → root.Valid) (hvalid : state.AllValid)
    (hvalue : (state.valueAt? place.location).isSome) (h : Makes source rounds place state other now) :
    (now.valueAt? other.location).isSome := by
  induction h with
  | self => exact hvalue
  | @inside rounds location inherited state now _ members question _ _ _ hobject _ hreach _ ih =>
    have hopening : Gathers source state (state.opening location) := .of_same rfl
    have hgathers : Gathers source state now :=
      hopening.trans (gathers_reaches (fun _ _ _ _ hrun => (visit_accounted hrun).1) hreach)
    have hvalid' := hvalid.gathers hgathers hsource
    obtain ⟨⟨keyword, value, hmem, steps, hsteps, rfl⟩, _⟩ :=
      hreach.asksOnly (asksOnly_readObject location members inherited)
    exact ih hvalid' (hvalid'.isSome_valueAt?_child (hgathers.valueAt? hobject) hmem hsteps)
  | @along _ location _ _ state next _ _ _ _ _ htarget _ _ _ ih =>
    obtain ⟨hgathers, htargets⟩ := targets_target htarget
    have hsetOut : Gathers source next (next.setOut location) := .of_same rfl
    cases htargets with
    | found hfound => exact ih (hvalid.gathers (hgathers.trans hsetOut) hsource) hfound

end Linking

end JsonSchema
