import JsonSchema.Proofs.Linking.Placement
import JsonSchema.Proofs.Pointer
import Mathlib.Algebra.BigOperators.Group.List.Basic
import Mathlib.Data.Finset.Card

/-!
Linking ends. Each schema that is read inside of another one and each reference that is followed is at a place of its
own, and there are no more places than pointers into the documents: the one to be read and those of the source, none of
which is taken up twice.
-/
namespace JsonSchema

namespace Members

variable {α : Type} {members : Members α} {name other : String} {value : α}

def without (members : Members α) (name : String) : Members α := members.eraseP fun member => member.1 = name

theorem find?_without (h : other ≠ name) : find? (without members name) other = find? members other := by
  induction members with
  | nil => rfl
  | cons head rest ih =>
    rw [without, List.eraseP_cons]
    by_cases hhead : head.1 = name
    · simp [hhead, find?, Ne.symm h]
    · simp only [hhead, decide_false, cond_false, find?]
      rw [← without, ih]

theorem sum_without (f : α → Nat) (h : find? members name = some value) :
    ((values members).map f).sum = f value + ((values (without members name)).map f).sum := by
  induction members with
  | nil => cases h
  | cons head rest ih =>
    rw [without, List.eraseP_cons]
    rw [find?] at h
    by_cases hhead : head.1 = name
    · rw [if_pos hhead] at h
      cases h
      simp [hhead, values]
    · rw [if_neg hhead] at h
      have hrest := ih h
      simp only [hhead, decide_false, cond_false, values, List.map_cons, List.sum_cons, without] at hrest ⊢
      omega

theorem sum_le_of_find? (f : α → Nat) {names : List String} {found : List α} (hnodup : names.Nodup)
    (h : names.map (find? members) = found.map some) : (found.map f).sum ≤ ((values members).map f).sum := by
  induction names generalizing members found with
  | nil =>
    obtain rfl : found = [] := by simpa using h.symm
    simp
  | cons name names ih =>
    obtain ⟨hnew, hnodup'⟩ := List.nodup_cons.mp hnodup
    cases found with
    | nil => cases h
    | cons value found =>
      simp only [List.map_cons, List.cons.injEq] at h
      have hrest : names.map (find? (without members name)) = found.map some := by
        rw [← h.2]
        exact List.map_congr_left fun other hmem => find?_without fun heq => hnew (heq ▸ hmem)
      have hsum := ih hnodup' hrest
      rw [sum_without f h.1, List.map_cons, List.sum_cons]
      omega

end Members

namespace LinkState

variable {source : LinkSource} {location : Location} {state first second : LinkState} {opened ends : List Location}

def places (state : LinkState) : List Location :=
  state.documents.zipIdx.flatMap fun (document, number) =>
    document.root.pointers.map fun text => ⟨number, String.ofList text⟩

theorem mem_places (h : (state.valueAt? location).isSome) : location ∈ state.places := by
  obtain ⟨value, hvalue⟩ := Option.isSome_iff_exists.mp h
  obtain ⟨document, hdocument, hat⟩ := Option.bind_eq_some_iff.mp hvalue
  refine List.mem_flatMap.mpr ⟨(document, location.document), List.mem_zipIdx_iff_getElem?.mpr hdocument, ?_⟩
  exact List.mem_map.mpr ⟨_, Json.mem_pointers (Option.isSome_iff_exists.mpr ⟨value, hat⟩), by simp⟩

theorem length_places (state : LinkState) :
    state.places.length = (state.documents.map fun document => document.root.pointerCount).sum := by
  have hcounts : state.documents.zipIdx.map (fun (document, _) => document.root.pointerCount) =
      state.documents.map fun document => document.root.pointerCount := by
    conv_rhs => rw [← List.zipIdx_map_fst 0 state.documents, List.map_map]
    rfl
  simp only [places, List.length_flatMap, List.length_map, Json.length_pointers]
  exact congrArg List.sum hcounts

/-- A bound on the number of places in all documents that can ever be met. -/
def room (source : LinkSource) (state : LinkState) : Nat :=
  ((state.documents.take 1).map fun document => document.root.pointerCount).sum +
    ((Members.values source.documents.entries).map Json.pointerCount).sum

theorem length_places_le (h : state.Loaded source) : state.places.length ≤ state.room source := by
  obtain ⟨_, keys, hnodup, hall⟩ := h
  have hfound : keys.map (Members.find? source.documents.entries) =
      ((state.documents.drop 1).map LoadedDocument.root).map some := by
    rw [← List.forall₂_eq_eq_eq, List.forall₂_map_left_iff, List.map_map, List.forall₂_map_right_iff]
    refine hall.imp ?_
    rintro key document ⟨hfind, hself, _⟩
    rw [Documents.find?, hself] at hfind
    exact hfind
  have hle := Members.sum_le_of_find? Json.pointerCount hnodup hfound
  rw [List.map_map] at hle
  rw [length_places, room]
  conv_lhs => rw [← List.take_append_drop 1 state.documents, List.map_append, List.sum_append]
  exact Nat.add_le_add_left hle _

theorem room_eq (hle : first ≤ second) (h : first.Loaded source) : second.room source = first.room source := by
  obtain ⟨document, hdocument⟩ : ∃ document, first.documents[0]? = some document :=
    ⟨_, List.getElem?_eq_getElem (List.length_pos_of_ne_nil h.1)⟩
  have hfirst : first.documents.take 1 = [document] := by simp [List.take_one, List.head?_eq_getElem?, hdocument]
  have hsecond : second.documents.take 1 = [document] := by
    simp [List.take_one, List.head?_eq_getElem?, hle.documents _ _ hdocument]
  rw [room, room, hfirst, hsecond]

/-- The places that have a node, or a reference that is being followed. -/
def taken (state : LinkState) : Finset Location := (state.placed.map Prod.fst ++ state.underway).toFinset

theorem mem_taken : location ∈ state.taken ↔ (state.nodeAt? location).isSome ∨ location ∈ state.underway := by
  simp [taken, nodeAt?]

theorem taken_mono (hle : first ≤ second) (hunderway : first.underway ⊆ second.underway) :
    first.taken ⊆ second.taken := by
  intro location hmem
  rcases mem_taken.mp hmem with hid | hunder
  · obtain ⟨id, hid⟩ := Option.isSome_iff_exists.mp hid
    exact mem_taken.mpr (.inl (by simp [hle.placed _ _ hid]))
  · exact mem_taken.mpr (.inr (hunderway hunder))

theorem card_taken_lt (hle : first ≤ second) (hunderway : first.underway ⊆ second.underway)
    (hnew : location ∉ first.taken) (hmem : location ∈ second.taken) : first.taken.card < second.taken.card :=
  Finset.card_lt_card ⟨taken_mono hle hunderway, fun hsub => hnew (hsub hmem)⟩

theorem card_taken_le (hsound : Sound source opened state) (honWay : OnWay source.rules ends state) :
    state.taken.card ≤ state.room source := by
  have hsub : state.taken ⊆ state.places.toFinset := by
    intro location hmem
    refine List.mem_toFinset.mpr (mem_places ?_)
    rcases mem_taken.mp hmem with hid | hunder
    · obtain ⟨id, hid⟩ := Option.isSome_iff_exists.mp hid
      exact (hsound.settled location id hid).isSome_valueAt?
    · obtain ⟨target, hhop, _⟩ := honWay location hunder
      obtain ⟨reference, href, _⟩ := hop_eq_some_iff.mp hhop
      exact isSome_valueAt?_of_refAt? href
  calc
    state.taken.card ≤ state.places.toFinset.card := Finset.card_le_card hsub
    _ ≤ state.places.length := state.places.toFinset_card_le
    _ ≤ state.room source := length_places_le hsound.loaded

theorem OnWay.not_mem (h : OnWay source.rules ends state) (href : state.refAt? location = none) :
    location ∉ state.underway := by
  intro hmem
  obtain ⟨target, hhop, _⟩ := h location hmem
  obtain ⟨reference, href', _⟩ := hop_eq_some_iff.mp hhop
  simp [href] at href'

end LinkState

namespace Linking

open LinkState

variable {source : LinkSource} {state : LinkState} {opened : List Location}

theorem isSome_andThen {α β : Type} {outcome : Outcome α} {next : α → LinkState → β × LinkState}
    (h : outcome.isSome) : (outcome.andThen next).isSome := by
  obtain ⟨result, rfl⟩ := Option.isSome_iff_exists.mp h
  rfl

/-- A visit ends if there are more rounds left than places. -/
theorem visit_isSome (hcanonical : source.Canonical) (rounds : Nat) (place : Visit)
    (hsound : Sound source opened state) (honWay : OnWay source.rules (place.location :: opened) state)
    (hrounds : state.room source < state.taken.card + rounds) : (run (visit source rounds place) state).isSome := by
  induction rounds generalizing place opened state with
  | zero =>
    have := card_taken_le hsound honWay
    omega
  | succ rounds ih =>
    obtain ⟨location, inherited⟩ := place
    have hend : AllEnd source (visit source rounds) := fun _ place _ hs hw => visit_ended hcanonical rounds place hs hw
    have hcases := visit_cases hcanonical rounds location inherited state
    generalize run (visit source (rounds + 1) ⟨location, inherited⟩) state = outcome at hcases ⊢
    cases hcases with
    | known => rfl
    | fault => rfl
    | boolean => rfl
    | unresolved => rfl
    | shared => rfl
    | circular => rfl
    | @object members hfresh hvalue hmember =>
      have href : state.refAt? location = none := by simp [refAt?, hvalue, Json.member?, hmember]
      obtain ⟨hkept, hle⟩ := hsound.opening honWay hfresh (by simp [hvalue]) href
      refine isSome_andThen (Option.isSome_iff_ne_none.mpr fun hnone => ?_)
      obtain ⟨place, _, now, hreach, hnone'⟩ := Inquiry.reaches_of_run_none hnone
      obtain ⟨hnow, hle'⟩ := hkept.reaches hend hreach
      have hnew : location ∉ state.taken := by simp [mem_taken, hfresh, honWay.not_mem href]
      have hmem : location ∈ (state.opening location).taken := by
        simp [mem_taken, opening, nodeAt?_withNode_self]
      have hless := card_taken_lt hle (List.Subset.refl _) hnew hmem
      have hmore := Finset.card_le_card (taken_mono hle' (by rw [hnow.underway]; exact List.Subset.refl _))
      have hroom := room_eq (le_trans hle hle') hsound.loaded
      have hsome := ih place hnow.sound (hnow.onWayTo place.location) (by omega)
      simp [hnone'] at hsome
    | @followed reference next target version hfresh href hloads hresolve hid hnew =>
      have hhop := hloads.hop href hresolve
      have hsame := hloads.frame.2.2
      obtain ⟨hstart, hway, hle⟩ := (hsound.load hloads).setOut
        (honWay.of_same hloads.le hsame (List.Subset.refl _)) hhop
      have hnew' : location ∉ state.taken := by simpa [mem_taken, hfresh, hsame] using hnew
      have hmem : location ∈ (next.setOut location).taken := by simp [mem_taken, LinkState.setOut]
      have hunder : state.underway ⊆ (next.setOut location).underway := by
        simp [LinkState.setOut, hsame]
      have hless : state.taken.card < (next.setOut location).taken.card :=
        card_taken_lt (le_trans hloads.le hle) hunder hnew' hmem
      have hroom : (next.setOut location).room source = state.room source :=
        room_eq (le_trans hloads.le hle) hsound.loaded
      exact isSome_andThen (ih ⟨target, version⟩ hstart hway (by omega))

end Linking

namespace Reader

open LinkState

variable (reader : Reader) (document : Json)

theorem start_cases : ∃ loaded : LoadedDocument, loaded.root = document ∧
    reader.start document = { documents := [loaded], byKey := (reader.start document).byKey } := by
  obtain ⟨loaded, _, hroot, _, _, heq, _⟩ := takeUp_cases {} reader.source.rules none document
  exact ⟨loaded, hroot, heq⟩

theorem sound_start : Sound reader.source [] (reader.start document) := by
  obtain ⟨loaded, _, heq⟩ := reader.start_cases document
  rw [heq]
  refine ⟨⟨by simp, [], .nil, .nil⟩, ?_, ?_, ?_, ?_, ?_, ?_⟩
  · intro location id hid
    cases hid
  · intro location id hid
    cases hid
  · intro location other id hid
    cases hid
  · intro index hlt
    cases hlt
  · intro location hmem
    cases hmem
  · intro location id hid
    cases hid

theorem onWay_start (ends : List Location) : OnWay reader.source.rules ends (reader.start document) := by
  obtain ⟨loaded, _, heq⟩ := reader.start_cases document
  rw [heq]
  intro location hmem
  cases hmem

theorem rounds_eq : reader.rounds document = (reader.start document).room reader.source + 2 := by
  have hfold (roots : List Json) (n : Nat) :
      roots.foldl (fun n root => n + root.pointerCount) n = n + (roots.map Json.pointerCount).sum := by
    induction roots generalizing n with
    | nil => rfl
    | cons root rest ih =>
      rw [List.foldl_cons, ih, List.map_cons, List.sum_cons]
      omega
  obtain ⟨loaded, hroot, heq⟩ := reader.start_cases document
  rw [rounds, hfold, heq, room]
  simp only [List.map_cons, List.sum_cons, List.take_succ_cons, List.take_zero, List.map_nil, List.sum_nil, hroot]
  omega

theorem link?_isSome (hcanonical : reader.source.Canonical) : (reader.link? document).isSome := by
  refine Linking.visit_isSome hcanonical _ _ (reader.sound_start document) (reader.onWay_start document _) ?_
  rw [rounds_eq]
  omega

/-- Reading a document ends with a node at its root, or for a reason. -/
theorem link?_ended (hcanonical : reader.source.Canonical) :
    Ended reader.source [] (reader.start document) ⟨0, ""⟩ (reader.link? document) :=
  Linking.visit_ended hcanonical _ _ (reader.sound_start document) (reader.onWay_start document _)

theorem visited_root (hcanonical : reader.source.Canonical) {root : SchemaId} {final : LinkState}
    (h : reader.link? document = some (.ok root, final)) :
    Visited reader.source [] (reader.start document) ⟨0, ""⟩ root final := by
  have hended := reader.link?_ended document hcanonical
  rwa [h] at hended

theorem valueAt?_root (hcanonical : reader.source.Canonical) {document : Json}
    {result : Except ReadError SchemaId} {final : LinkState} (h : reader.link? document = some (result, final)) :
    final.valueAt? ⟨0, ""⟩ = some document := by
  have hle : reader.start document ≤ final := by
    have hended := reader.link?_ended document hcanonical
    rw [h] at hended
    cases result with
    | ok => exact hended.le
    | error => exact hended.le
  obtain ⟨loaded, hdocument, heq⟩ := reader.start_cases document
  refine valueAt?_mono hle ?_
  rw [heq, valueAt?, ← hdocument]
  rfl

theorem canonical_default : ({} : Reader).source.Canonical := by
  intro base reference address hfound
  simp at hfound

end Reader

end JsonSchema
