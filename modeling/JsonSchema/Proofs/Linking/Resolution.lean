import JsonSchema.Linking.Reference
import Mathlib.Data.List.Forall2
import Mathlib.Order.Basic

/-!
Where references lead, read off a state. States of linking only grow, and a reference that leads somewhere leads there
in every later state. Following a reference in the reader takes up at most one document and comes to the place that the
state then says.
-/
namespace JsonSchema

variable {rules : UriRules} {source : LinkSource} {location target : Location} {reference : String}

namespace LinkState

variable {state first second : LinkState}

/-- More documents are met and more places have nodes; what was there stays. -/
structure Extends (first second : LinkState) : Prop where
  documents : ∀ (number : Nat) (document : LoadedDocument),
    first.documents[number]? = some document → second.documents[number]? = some document
  keys : ∀ key number, Members.find? first.byKey key = some number → Members.find? second.byKey key = some number
  placed : ∀ location id, first.nodeAt? location = some id → second.nodeAt? location = some id

instance : Preorder LinkState where
  le := Extends
  le_refl _ := ⟨fun _ _ h => h, fun _ _ h => h, fun _ _ h => h⟩
  le_trans _ _ _ h h' :=
    ⟨fun number document hd => h'.documents number document (h.documents number document hd),
      fun key number hk => h'.keys key number (h.keys key number hk),
      fun location id hp => h'.placed location id (h.placed location id hp)⟩

theorem valueAt?_mono (hle : first ≤ second) {value : Json} (h : first.valueAt? location = some value) :
    second.valueAt? location = some value := by
  obtain ⟨document, hdocument, hvalue⟩ := Option.bind_eq_some_iff.mp h
  exact Option.bind_eq_some_iff.mpr ⟨document, hle.documents _ _ hdocument, hvalue⟩

theorem valueAt?_eq (hle : first ≤ second) (h : (first.valueAt? location).isSome) :
    second.valueAt? location = first.valueAt? location := by
  obtain ⟨value, hvalue⟩ := Option.isSome_iff_exists.mp h
  rw [hvalue, valueAt?_mono hle hvalue]

theorem baseOf_eq (hle : first ≤ second) {number : Nat} {document : LoadedDocument}
    (h : first.documents[number]? = some document) : second.baseOf number = first.baseOf number := by
  simp [baseOf, h, hle.documents _ _ h]

def refAt? (state : LinkState) (location : Location) : Option String :=
  (state.valueAt? location).bind fun value => (value.member? Keyword.reference.name).bind Json.string?

theorem refAt?_eq (hle : first ≤ second) (h : (first.valueAt? location).isSome) :
    second.refAt? location = first.refAt? location := by
  rw [refAt?, refAt?, valueAt?_eq hle h]

theorem isSome_valueAt?_of_refAt? (h : state.refAt? location = some reference) : (state.valueAt? location).isSome := by
  obtain ⟨value, hvalue, _⟩ := Option.bind_eq_some_iff.mp h
  exact Option.isSome_iff_exists.mpr ⟨value, hvalue⟩

theorem refAt?_mono (hle : first ≤ second) (h : first.refAt? location = some reference) :
    second.refAt? location = some reference :=
  (refAt?_eq hle (isSome_valueAt?_of_refAt? h)).trans h

theorem exists_document_of_valueAt? (h : (state.valueAt? location).isSome) :
    ∃ document, state.documents[location.document]? = some document := by
  obtain ⟨value, hvalue⟩ := Option.isSome_iff_exists.mp h
  obtain ⟨document, hdocument, _⟩ := Option.bind_eq_some_iff.mp hvalue
  exact ⟨document, hdocument⟩

def documentOf? (state : LinkState) (rules : UriRules) (origin : Nat) (address : String) : Option Nat :=
  if address.isEmpty then some origin
  else Members.find? state.byKey (targetAddress rules (state.baseOf origin) address)

/-- What is not among the documents met is not to be found either, as the source has been asked for it. -/
def Consulted (source : LinkSource) (state : LinkState) (origin : Nat) (address : String) : Prop :=
  state.documentOf? source.rules origin address = none →
    source.documents.find? source.rules (targetAddress source.rules (state.baseOf origin) address) = none

def resolve? (state : LinkState) (rules : UriRules) (location : Location) (reference : String) : Option Location :=
  (state.documentOf? rules location.document (splitFragment reference).1).bind fun number =>
    let target : Location := ⟨number, Percent.decode ((splitFragment reference).2.getD "")⟩
    if (state.valueAt? target).isSome then some target else none

theorem resolve?_eq_some_iff :
    state.resolve? rules location reference = some target ↔
      state.documentOf? rules location.document (splitFragment reference).1 = some target.document ∧
      target.pointer = Percent.decode ((splitFragment reference).2.getD "") ∧ (state.valueAt? target).isSome := by
  obtain ⟨number, pointer⟩ := target
  simp only [resolve?, Option.bind_eq_some_iff, Option.ite_none_right_eq_some, Option.some.injEq, Location.mk.injEq]
  constructor
  · rintro ⟨_, hdocument, hvalue, rfl, rfl⟩
    exact ⟨hdocument, rfl, hvalue⟩
  · rintro ⟨hdocument, rfl, hvalue⟩
    exact ⟨number, hdocument, hvalue, rfl, rfl⟩

theorem resolve?_mono (hle : first ≤ second) {document : LoadedDocument}
    (hdocument : first.documents[location.document]? = some document)
    (h : first.resolve? rules location reference = some target) :
    second.resolve? rules location reference = some target := by
  obtain ⟨hnumber, hpointer, hvalue⟩ := resolve?_eq_some_iff.mp h
  refine resolve?_eq_some_iff.mpr ⟨?_, hpointer, by rwa [valueAt?_eq hle hvalue]⟩
  unfold documentOf? at hnumber ⊢
  split
  · simpa [*] using hnumber
  · rename_i haddress
    rw [if_neg haddress] at hnumber
    rw [baseOf_eq hle hdocument]
    exact hle.keys _ _ hnumber

/-- One hop of a chain: from a place that holds a reference to the place that it names. -/
def hop (state : LinkState) (rules : UriRules) (location : Location) : Option Location :=
  (state.refAt? location).bind (state.resolve? rules location)

theorem hop_eq_some_iff :
    state.hop rules location = some target ↔
      ∃ reference, state.refAt? location = some reference ∧ state.resolve? rules location reference = some target :=
  Option.bind_eq_some_iff

theorem hop_mono (hle : first ≤ second) (h : first.hop rules location = some target) :
    second.hop rules location = some target := by
  obtain ⟨reference, hreference, hresolve⟩ := hop_eq_some_iff.mp h
  have hvalue := isSome_valueAt?_of_refAt? hreference
  obtain ⟨document, hdocument⟩ := exists_document_of_valueAt? hvalue
  exact hop_eq_some_iff.mpr ⟨reference, refAt?_mono hle hreference, resolve?_mono hle hdocument hresolve⟩

def after (state : LinkState) (rules : UriRules) : Nat → Location → Option Location
  | 0, location => some location
  | hops + 1, location => (state.hop rules location).bind (state.after rules hops)

/-- A chain goes on for ever, so it never comes to a place without a reference. -/
def Endless (state : LinkState) (rules : UriRules) (location : Location) : Prop :=
  ∀ hops, (state.after rules hops location).isSome

inductive LeadsTo (state : LinkState) (rules : UriRules) : Location → Location → Prop
  | here {location : Location} : state.refAt? location = none → LeadsTo state rules location location
  | next {location target last : Location} :
    state.hop rules location = some target → LeadsTo state rules target last → LeadsTo state rules location last

theorem Endless.next (h : state.Endless rules location) (hhop : state.hop rules location = some target) :
    state.Endless rules target := by
  intro hops
  simpa [after, hhop] using h (hops + 1)

theorem Endless.exists_hop (h : state.Endless rules location) : ∃ target, state.hop rules location = some target := by
  have hone := h 1
  cases hhop : state.hop rules location with
  | none => simp [after, hhop] at hone
  | some target => exact ⟨target, rfl⟩

theorem LeadsTo.not_endless {last : Location} (h : state.LeadsTo rules location last) :
    ¬state.Endless rules location := by
  induction h with
  | here hnone =>
    intro hendless
    obtain ⟨target, hhop⟩ := hendless.exists_hop
    obtain ⟨reference, hreference, _⟩ := hop_eq_some_iff.mp hhop
    simp [hnone] at hreference
  | next hhop _ ih => exact fun hendless => ih (hendless.next hhop)

/-- Where each place of some leads to another one of them or to an end, a chain comes to an end or stays among them for
ever. -/
theorem endless_or_leadsTo {places ends : List Location}
    (hnext : ∀ place ∈ places, ∃ target, state.hop rules place = some target ∧ (target ∈ places ∨ target ∈ ends))
    (hends : ∀ last ∈ ends, state.refAt? last = none) (hmem : location ∈ places) :
    state.Endless rules location ∨ ∃ last ∈ ends, state.LeadsTo rules location last := by
  by_cases hlast : ∃ last ∈ ends, state.LeadsTo rules location last
  · exact .inr hlast
  · refine .inl fun hops => ?_
    induction hops generalizing location with
    | zero => rfl
    | succ hops ih =>
      obtain ⟨target, hhop, htarget | htarget⟩ := hnext location hmem
      · simp only [after, hhop, Option.bind_some]
        exact ih htarget fun ⟨last, hend, hlead⟩ => hlast ⟨last, hend, .next hhop hlead⟩
      · exact absurd ⟨target, htarget, .next hhop (.here (hends target htarget))⟩ hlast

theorem find?_register (state : LinkState) (key other : String) (number : Nat) :
    Members.find? (state.register key number).byKey other =
      (Members.find? state.byKey other).or (if other = key then some number else none) := by
  simp only [register]
  by_cases hkey : Members.contains state.byKey key
  · rw [if_pos hkey]
    by_cases hother : other = key
    · obtain ⟨known, hknown⟩ := Option.isSome_iff_exists.mp hkey
      simp [hother, hknown]
    · simp [hother]
  · rw [if_neg hkey]
    by_cases hother : other = key
    · have hnone : Members.find? state.byKey key = none := by simpa [Members.contains] using hkey
      simp [hother, hnone]
    · rw [Members.find?_insert_of_ne (Ne.symm hother)]
      simp [hother]

theorem find?_foldl_register (state : LinkState) (keys : List String) (number : Nat) (key : String) :
    Members.find? (keys.foldl (fun state key => state.register key number) state).byKey key =
      (Members.find? state.byKey key).or (if key ∈ keys then some number else none) := by
  induction keys generalizing state with
  | nil => simp
  | cons head rest ih =>
    rw [List.foldl_cons, ih, find?_register, Option.or_assoc]
    by_cases hhead : key = head <;> simp [hhead]

theorem foldl_register (state : LinkState) (keys : List String) (number : Nat) :
    keys.foldl (fun state key => state.register key number) state =
      { state with byKey := (keys.foldl (fun state key => state.register key number) state).byKey } := by
  induction keys generalizing state with
  | nil => rfl
  | cons key rest ih =>
    rw [List.foldl_cons, ih]
    rfl

theorem takeUp_cases (state : LinkState) (rules : UriRules) (foundAt : Option String) (root : Json) :
    ∃ (document : LoadedDocument) (keys : List String), document.root = root ∧
      (∀ address ∈ foundAt, rules.key address ∈ keys) ∧
      (state.takeUp rules foundAt root).1 = state.documents.length ∧
      (state.takeUp rules foundAt root).2 = { state with
        documents := state.documents ++ [document], byKey := (state.takeUp rules foundAt root).2.byKey } ∧
      ∀ key, Members.find? (state.takeUp rules foundAt root).2.byKey key =
        (Members.find? state.byKey key).or (if key ∈ keys then some state.documents.length else none) := by
  refine ⟨⟨baseOfRoot rules foundAt root, (root.member? Keyword.schema.name).bind Json.string?, root⟩,
    ([foundAt, (baseOfRoot rules foundAt root).map Uri.text].filterMap id).map rules.key, rfl, ?_, rfl, ?_, ?_⟩
  · cases foundAt <;> simp
  · rw [takeUp, foldl_register]
  · intro key
    rw [takeUp]
    exact find?_foldl_register state _ _ key

/-- What following a reference may do to a state: nothing, or taking up a document of the source whose address was not
known, and is its own key. -/
def Loads (source : LinkSource) (first second : LinkState) : Prop :=
  second = first ∨ ∃ address root, source.documents.find? source.rules address = some root ∧
    Members.find? first.byKey address = none ∧ source.rules.key address = address ∧
    second = (first.takeUp source.rules (some address) root).2

namespace Loads

theorem frame (h : Loads source first second) :
    second.graph = first.graph ∧ second.placed = first.placed ∧ second.underway = first.underway := by
  rcases h with rfl | ⟨address, root, _, _, _, rfl⟩
  · exact ⟨rfl, rfl, rfl⟩
  · obtain ⟨_, _, _, _, _, heq, _⟩ := takeUp_cases first source.rules (some address) root
    rw [heq]
    exact ⟨rfl, rfl, rfl⟩

theorem le (h : Loads source first second) : first ≤ second := by
  have hplaced : second.placed = first.placed := h.frame.2.1
  refine ⟨?_, ?_, fun location id hid => by rwa [nodeAt?, hplaced]⟩
  · rcases h with rfl | ⟨address, root, _, _, _, rfl⟩
    · exact fun _ _ h => h
    · obtain ⟨_, _, _, _, _, heq, _⟩ := takeUp_cases first source.rules (some address) root
      intro number document hdocument
      obtain ⟨hlt, _⟩ := List.getElem?_eq_some_iff.mp hdocument
      rw [heq, List.getElem?_append_left hlt, hdocument]
  · rcases h with rfl | ⟨address, root, _, _, _, rfl⟩
    · exact fun _ _ h => h
    · obtain ⟨_, _, _, _, _, _, hkeys⟩ := takeUp_cases first source.rules (some address) root
      intro key number hnumber
      rw [hkeys, hnumber, Option.some_or]

theorem hop (h : Loads source first second) (href : first.refAt? location = some reference)
    (hresolve : second.resolve? source.rules location reference = some target) :
    second.hop source.rules location = some target :=
  hop_eq_some_iff.mpr ⟨reference, refAt?_mono h.le href, hresolve⟩

end Loads

end LinkState

/-- The addresses under which documents are found are their own keys. Addresses of the web are, as they come out of the
same rules that make keys; so with no documents to be found there is nothing to ask. -/
def LinkSource.Canonical (source : LinkSource) : Prop :=
  ∀ base reference,
    let address := targetAddress source.rules base (splitFragment reference).1
    (source.documents.find? source.rules address).isSome → source.rules.key address = address

namespace Linking

variable {α β : Type} {state : LinkState}

theorem run_bind (steps : Linking α) (next : α → Linking β) (state : LinkState) :
    run (steps >>= next) state =
      match run steps state with
      | none => none
      | some (.error error, after) => some (.error error, after)
      | some (.ok value, after) => run (next value) after := by
  simp only [run, bind, ExceptT.bind, ExceptT.mk, StateT.bind, ExceptT.bindCont, Option.bind]
  cases steps state with
  | none => rfl
  | some outcome =>
    obtain ⟨result, after⟩ := outcome
    cases result <;> rfl

theorem run_map (f : α → β) (steps : Linking α) (state : LinkState) :
    run (f <$> steps) state = (run steps state).map fun (result, after) => (result.map f, after) := by
  rw [map_eq_pure_bind, run_bind]
  cases run steps state with
  | none => rfl
  | some outcome =>
    obtain ⟨result, after⟩ := outcome
    cases result <;> rfl

@[simp] theorem run_pure (value : α) (state : LinkState) : run (pure value) state = some (.ok value, state) := rfl

@[simp] theorem run_throw (error : ReadError) (state : LinkState) :
    run (throw error : Linking α) state = some (.error error, state) := rfl

@[simp] theorem run_get (state : LinkState) : run get state = some (.ok state, state) := rfl

@[simp] theorem run_set (next state : LinkState) : run (set next) state = some (.ok ⟨⟩, next) := rfl

@[simp] theorem run_modify (f : LinkState → LinkState) (state : LinkState) :
    run (modify f) state = some (.ok ⟨⟩, f state) := rfl

theorem run_document? (hcanonical : source.Canonical) {origin : Nat} {document : LoadedDocument}
    (hdocument : state.documents[origin]? = some document) (reference : String)
    (haddress : (splitFragment reference).1.isEmpty = false) :
    ∃ next, LinkState.Loads source state next ∧
      run (document? source origin (splitFragment reference).1) state =
        some (.ok (next.documentOf? source.rules origin (splitFragment reference).1), next) ∧
      next.Consulted source origin (splitFragment reference).1 := by
  simp only [document?, run_bind, run_get, LinkState.Consulted, LinkState.documentOf?, haddress, Bool.false_eq_true,
    if_false]
  generalize hkey : targetAddress source.rules (state.baseOf origin) (splitFragment reference).1 = address
  cases hknown : Members.find? state.byKey address with
  | some number =>
    refine ⟨state, .inl rfl, ?_⟩
    simp [hkey, hknown]
  | none =>
    cases hroot : source.documents.find? source.rules address with
    | none =>
      refine ⟨state, .inl rfl, ?_⟩
      simp [hkey, hknown, hroot]
    | some root =>
      have hself : source.rules.key address = address := by
        subst hkey
        exact hcanonical _ _ (by simp [hroot])
      have hloads : LinkState.Loads source state (state.takeUp source.rules (some address) root).2 :=
        .inr ⟨address, root, hroot, hknown, hself, rfl⟩
      obtain ⟨_, keys, _, hmem, hnumber, _, hkeys⟩ := LinkState.takeUp_cases state source.rules (some address) root
      have hself' : address ∈ keys := by simpa [hself] using hmem address
      refine ⟨_, hloads, ?_⟩
      simp [run_map, LinkState.baseOf_eq hloads.le hdocument, hkey, hkeys, hknown, hself', hnumber, Except.map]

theorem run_placeIn (number : Nat) (fragment : String) (unresolved : ReadError) (state : LinkState) :
    run (placeIn number fragment unresolved) state =
      if (state.valueAt? ⟨number, Percent.decode fragment⟩).isSome then
        some (.ok ⟨number, Percent.decode fragment⟩, state)
      else if (Json.Pointer.segments? (Percent.decode fragment).toList).isNone then
        some (.error (.invalidPointer (Percent.decode fragment)), state)
      else some (.error unresolved, state) := by
  unfold placeIn
  by_cases hpointer : (Json.Pointer.segments? (Percent.decode fragment).toList).isNone
  · have hnone : state.valueAt? ⟨number, Percent.decode fragment⟩ = none := by
      simp [LinkState.valueAt?, Json.at?, Option.isNone_iff_eq_none.mp hpointer]
    simp [hpointer, hnone]
  · cases hvalue : state.valueAt? ⟨number, Percent.decode fragment⟩ <;> simp [run_bind, hpointer, hvalue]

/-- Finding the place that a reference names never gets stuck, and comes to the place that the state then says. -/
theorem run_target (hcanonical : source.Canonical) (hvalue : (state.valueAt? location).isSome) (reference : String) :
    ∃ next, LinkState.Loads source state next ∧
      ((∃ target, next.resolve? source.rules location reference = some target ∧
          run (Linking.target source location reference) state = some (.ok target, next)) ∨
        (next.resolve? source.rules location reference = none ∧
          next.Consulted source location.document (splitFragment reference).1 ∧
          ∃ error, (∀ reference pointer, error ≠ .circularReference reference pointer) ∧
            run (Linking.target source location reference) state = some (.error error, next))) := by
  obtain ⟨document, hdocument⟩ := LinkState.exists_document_of_valueAt? hvalue
  -- In either document the place is there or it is not.
  have hplace (next : LinkState) (number : Nat)
      (hnumber : next.documentOf? source.rules location.document (splitFragment reference).1 = some number) :
      let steps := placeIn number ((splitFragment reference).2.getD "")
        (.unresolvedReference reference location.pointer)
      (∃ target, next.resolve? source.rules location reference = some target ∧
          run steps next = some (.ok target, next)) ∨
        (next.resolve? source.rules location reference = none ∧
          next.Consulted source location.document (splitFragment reference).1 ∧
          ∃ error, (∀ reference pointer, error ≠ .circularReference reference pointer) ∧
            run steps next = some (.error error, next)) := by
    intro steps
    have hconsulted : next.Consulted source location.document (splitFragment reference).1 := by
      intro hnone
      simp [hnumber] at hnone
    simp only [steps, run_placeIn, LinkState.resolve?, hnumber, Option.bind_some]
    split
    · exact .inl ⟨_, rfl, rfl⟩
    · split
      · exact .inr ⟨rfl, hconsulted, _, by simp, rfl⟩
      · exact .inr ⟨rfl, hconsulted, _, by simp, rfl⟩
  by_cases haddress : (splitFragment reference).1.isEmpty
  · refine ⟨state, .inl rfl, ?_⟩
    simpa [Linking.target, haddress] using
      hplace state location.document (by simp [LinkState.documentOf?, haddress])
  · obtain ⟨next, hloads, hrun, hconsulted⟩ := run_document? hcanonical hdocument reference (by simpa using haddress)
    refine ⟨next, hloads, ?_⟩
    simp only [Linking.target, haddress, Bool.false_eq_true, if_false, run_bind, hrun]
    cases hnumber : next.documentOf? source.rules location.document (splitFragment reference).1 with
    | none =>
      refine .inr ⟨by simp [LinkState.resolve?, hnumber], hconsulted, _, ?_, rfl⟩
      simp
    | some number => exact hplace next number hnumber

end Linking

end JsonSchema
