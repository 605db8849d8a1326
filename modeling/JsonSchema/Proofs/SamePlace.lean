import JsonSchema.Proofs.GraphImage
import JsonSchema.Proofs.Linking.Trace

/-!
Pointers that lead to the same place. A tilde in a name may be escaped or not where a reference names it, so a place
can be named in several ways, and each of them is read by itself. Pointers as they are written on the way into an object
escape every tilde; where references do the same, no place is read twice.
-/
namespace JsonSchema

namespace Json.Pointer

/-- A pointer as it is written: along some steps, with all tildes and slashes in them escaped. -/
def Written (pointer : String) : Prop := ∃ steps : List String, pointer = steps.foldl push ""

theorem written_empty : Written "" := ⟨[], rfl⟩

theorem Written.foldl_push {pointer : String} (h : Written pointer) (more : List String) :
    Written (more.foldl push pointer) := by
  obtain ⟨steps, rfl⟩ := h
  exact ⟨steps ++ more, by rw [List.foldl_append]⟩

theorem toList_foldl_push (steps : List String) (pointer : String) :
    (steps.foldl push pointer).toList = pointer.toList ++ steps.flatMap fun step => '/' :: escape step.toList := by
  induction steps generalizing pointer with
  | nil => simp
  | cons step rest ih => simp [ih, push]

theorem slash_not_mem_escape (segment : List Char) : '/' ∉ escape segment := by
  intro hmem
  obtain ⟨c, _, hc⟩ := List.mem_flatMap.mp hmem
  unfold escapeChar at hc
  split at hc
  · simp at hc
  · simp at hc
  · rename_i hslash
    obtain rfl : '/' = c := by simpa using hc
    exact hslash rfl

theorem splitSegments_ne_nil (text : List Char) : splitSegments text ≠ [] := by
  fun_cases splitSegments text <;> simp

theorem splitSegments_append (text rest : List Char) :
    splitSegments (text ++ '/' :: rest) = splitSegments text ++ splitSegments rest := by
  fun_induction splitSegments text with
  | case1 => rfl
  | case2 text ih => rw [List.cons_append, splitSegments, ih, List.cons_append]
  | case3 c text _ hnil => exact absurd hnil (splitSegments_ne_nil text)
  | case4 c text hslash first more hsplit ih =>
    rw [List.cons_append, splitSegments, ih, hsplit]
    · rfl
    · exact hslash

theorem splitSegments_of_not_mem {part : List Char} (h : '/' ∉ part) : splitSegments part = [part] := by
  induction part with
  | nil => rfl
  | cons c part ih =>
    obtain ⟨hc, hpart⟩ : '/' ≠ c ∧ '/' ∉ part := by simpa using h
    rw [splitSegments, ih hpart]
    exact Ne.symm hc

theorem segments?_foldl_push_of (pointer : String) (steps : List String) :
    segments? (steps.foldl push pointer).toList =
      (segments? pointer.toList).map (· ++ steps.map String.toList) := by
  have hsplit (text : List Char) : splitSegments (text ++ steps.flatMap fun step => '/' :: escape step.toList) =
      splitSegments text ++ steps.map fun step => escape step.toList := by
    induction steps generalizing text with
    | nil => simp
    | cons step rest ih =>
      rw [List.flatMap_cons, List.cons_append, splitSegments_append, ih,
        splitSegments_of_not_mem (slash_not_mem_escape step.toList)]
      rfl
  rw [toList_foldl_push]
  cases pointer.toList with
  | nil =>
    cases steps with
    | nil => rfl
    | cons step rest =>
      have hrest := hsplit []
      simp only [List.nil_append, List.flatMap_cons, List.cons_append, splitSegments, List.map_cons, List.cons.injEq,
        true_and] at hrest
      simp [segments?, hrest]
  | cons c text =>
    by_cases hc : c = '/'
    · subst c
      simp [segments?, hsplit]
    · have hnone (more : List Char) : segments? (c :: more) = none := by
        unfold segments?
        simp [hc]
      rw [List.cons_append, hnone, hnone, Option.map_none]

theorem segments?_foldl_push (steps : List String) :
    segments? (steps.foldl push "").toList = some (steps.map String.toList) := by
  rw [segments?_foldl_push_of]
  rfl

theorem written_iff {pointer : String} :
    Written pointer ↔ ∃ segments ∈ segments? pointer.toList, (segments.map String.ofList).foldl push "" = pointer := by
  constructor
  · rintro ⟨steps, rfl⟩
    have hsteps : (steps.map String.toList).map String.ofList = steps := by simp
    exact ⟨_, segments?_foldl_push steps, by rw [hsteps]⟩
  · rintro ⟨segments, _, heq⟩
    exact ⟨_, heq.symm⟩

instance (pointer : String) : Decidable (Written pointer) :=
  decidable_of_iff ((segments? pointer.toList).any fun segments =>
    (segments.map String.ofList).foldl push "" == pointer) (by simp [written_iff, Option.any_eq_true])

theorem Written.eq_of_segments {pointer other : String} (h : Written pointer) (h' : Written other)
    (hsame : segments? pointer.toList = segments? other.toList) : pointer = other := by
  obtain ⟨steps, rfl⟩ := h
  obtain ⟨others, rfl⟩ := h'
  rw [segments?_foldl_push, segments?_foldl_push, Option.some.injEq] at hsame
  rw [List.map_injective_iff.mpr (fun _ _ => String.toList_inj.mp) hsame]

end Json.Pointer

namespace LinkState

open Json.Pointer

variable {rules : UriRules} {origin : Visit} {opened : List Location} {source : LinkSource} {state : LinkState}
  {location target other : Location} {inherited : Option String} {id id' : SchemaId}

/-- Two locations are the same place: in the same document along the same segments, however these are written. The
segments are names and indices, and an index is written in one way only (`eq_digitsOf`). -/
def SamePlace (location other : Location) : Prop :=
  location.document = other.document ∧ segments? location.pointer.toList = segments? other.pointer.toList

theorem SamePlace.eq_of_written (h : SamePlace location other) (hwritten : Written location.pointer)
    (hwritten' : Written other.pointer) : location = other := by
  obtain ⟨document, pointer⟩ := location
  obtain ⟨document', pointer'⟩ := other
  obtain ⟨rfl, hsame⟩ := h
  obtain rfl : pointer = pointer' := hwritten.eq_of_segments hwritten' hsame
  rfl

theorem SamePlace.valueAt?_eq (h : SamePlace location other) (state : LinkState) :
    state.valueAt? location = state.valueAt? other := by
  obtain ⟨hdocument, hsegments⟩ := h
  simp only [valueAt?, Json.at?, hdocument, hsegments]

theorem SamePlace.refAt?_eq (h : SamePlace location other) (state : LinkState) :
    state.refAt? location = state.refAt? other := by
  simp only [refAt?, h.valueAt?_eq state]

theorem SamePlace.hop_eq (h : SamePlace location other) (state : LinkState) (rules : UriRules) :
    state.hop rules location = state.hop rules other := by
  obtain ⟨hdocument, _⟩ := id h
  have hresolve : state.resolve? rules location = state.resolve? rules other := by
    funext reference
    simp only [resolve?, documentOf?, hdocument]
  rw [hop, hop, h.refAt?_eq state, hresolve]

theorem Sound.eq_iff_of_samePlace (h : Sound source opened state) (hsame : SamePlace location other)
    (hid : state.nodeAt? location = some id) (hid' : state.nodeAt? other = some id') :
    id = id' ↔ location = other ∨ (state.refAt? location).isSome := by
  constructor
  · rintro rfl
    cases href : state.refAt? location with
    | some => exact .inr rfl
    | none => exact .inl (h.injective location other id hid hid' href (hsame.refAt?_eq state ▸ href))
  · rintro (rfl | href)
    · exact Option.some.inj (hid.symm.trans hid')
    · obtain ⟨reference, href⟩ := Option.isSome_iff_exists.mp href
      cases h.settled location id hid with
      | schema _ _ hnone => simp [href] at hnone
      | @reference _ target _ hhop hnext =>
        have hother : state.Settled source.rules id' target :=
          (h.settled other id' hid').of_hop (hsame.hop_eq state source.rules ▸ hhop)
        exact Option.some.inj (hnext.nodeAt?.symm.trans hother.nodeAt?)

/-- What a link at a place stands for: the place itself, or the one that the reference there names. -/
def StandsFor (state : LinkState) (rules : UriRules) (location target : Location) : Prop :=
  target = location ∨ state.hop rules location = some target

theorem Sound.nodeAt?_of_standsFor (h : Sound source opened state) (hid : state.nodeAt? location = some id)
    (hstands : state.StandsFor source.rules location target) : state.nodeAt? target = some id := by
  rcases hstands with rfl | hhop
  · exact hid
  · exact ((h.settled location id hid).of_hop hhop).nodeAt?

/-- Links that stand for the same place have the same node only if they write it in the same way, or a reference stands
there. -/
theorem Sound.eq_iff_of_standsFor (h : Sound source opened state) (hid : state.nodeAt? location = some id)
    (hid' : state.nodeAt? other = some id') {target' : Location}
    (hstands : state.StandsFor source.rules location target)
    (hstands' : state.StandsFor source.rules other target') (hsame : SamePlace target target') :
    id = id' ↔ target = target' ∨ (state.refAt? target).isSome := by
  have htarget : state.nodeAt? target = some id := h.nodeAt?_of_standsFor hid hstands
  have htarget' : state.nodeAt? target' = some id' := h.nodeAt?_of_standsFor hid' hstands'
  exact h.eq_iff_of_samePlace hsame htarget htarget'

/-- Reading comes to pointers as they are written, unless a reference is written otherwise. -/
theorem ComesTo.written (hcomes : ComesTo rules origin state location inherited)
    (horigin : Written origin.location.pointer) (href : ∀ location target, state.Reached location →
      state.hop rules location = some target → Written target.pointer) : Written location.pointer := by
  induction hcomes with
  | start => exact horigin
  | inside _ _ _ _ _ _ ih => exact ih.foldl_push _
  | reference _ hreached hhop _ => exact href _ _ hreached hhop

end LinkState

namespace Reader

open LinkState Json.Pointer

theorem written_of_nodeAt? {reader : Reader} (hcanonical : reader.source.Canonical) {document : Json} {root : SchemaId}
    {final : LinkState} (h : reader.link? document = some (.ok root, final))
    (hrefs : ∀ location id target, Located final location id → final.hop reader.source.rules location = some target →
      Written target.pointer) {place : Location} {id : SchemaId} (hplaced : final.nodeAt? place = some id) :
    Written place.pointer := by
  obtain ⟨inherited, hcomes⟩ := (link?_traced hcanonical h).placed place id hplaced
  apply hcomes.written written_empty
  intro location target hreached hhop
  obtain ⟨other, hother⟩ := exists_nodeAt?_of_reached hcanonical h hreached
  exact hrefs location other target hother hhop

/-- Links of a read that succeeds which stand for the same place have the same node if and only if they write the place
in the same way, or a reference stands there. So with references that escape all tildes, as the reader itself does,
links have the same node whenever they stand for the same place. -/
theorem link?_samePlace {reader : Reader} (hcanonical : reader.source.Canonical) {document : Json} {root : SchemaId}
    {final : LinkState} (h : reader.link? document = some (.ok root, final)) :
    (∀ location other target target' id id', Located final location id → Located final other id' →
      final.StandsFor reader.source.rules location target → final.StandsFor reader.source.rules other target' →
      SamePlace target target' → (id = id' ↔ target = target' ∨ (final.refAt? target).isSome)) ∧
    ((∀ location id target, Located final location id → final.hop reader.source.rules location = some target →
      Written target.pointer) →
      ∀ location other target target' id id', Located final location id → Located final other id' →
        final.StandsFor reader.source.rules location target → final.StandsFor reader.source.rules other target' →
        SamePlace target target' → id = id') := by
  have hsound := (reader.visited_root document hcanonical h).sound
  constructor
  · intro location other target target' id id' hid hid' hstands hstands' hsame
    exact hsound.eq_iff_of_standsFor hid hid' hstands hstands' hsame
  · intro hrefs location other target target' id id' hid hid' hstands hstands' hsame
    have hwritten : Written target.pointer :=
      written_of_nodeAt? hcanonical h hrefs (hsound.nodeAt?_of_standsFor hid hstands)
    have hwritten' : Written target'.pointer :=
      written_of_nodeAt? hcanonical h hrefs (hsound.nodeAt?_of_standsFor hid' hstands')
    apply (hsound.eq_iff_of_standsFor hid hid' hstands hstands' hsame).mpr
    exact .inl (hsame.eq_of_written hwritten hwritten')

def tildeEscaped : Json :=
  .object [("properties", .object [("x", .object [("$ref", .string "#/properties/a~0b")]),
    ("y", .object [("$ref", .string "#/properties/a%7E0b")]), ("a~b", .object [])])]

theorem link?_samePlace_tildeEscaped :
    ({} : Reader).source.Canonical ∧ ∃ root final, ({} : Reader).link? tildeEscaped = some (.ok root, final) ∧
      ∃ id, Located final ⟨0, "/properties/a~0b"⟩ id ∧ Located final ⟨0, "/properties/x"⟩ id ∧
        Located final ⟨0, "/properties/y"⟩ id := by
  refine ⟨canonical_default, ?_⟩
  have hfinal : (({} : Reader).link? tildeEscaped).map (fun outcome => (outcome.1,
      outcome.2.hop UriRules.web ⟨0, "/properties/x"⟩, outcome.2.hop UriRules.web ⟨0, "/properties/y"⟩,
      (outcome.2.placed.all fun entry => (outcome.2.hop UriRules.web entry.1).all fun target =>
        Written target.pointer) &&
      [⟨0, "/properties/a~0b"⟩, ⟨0, "/properties/x"⟩, ⟨0, "/properties/y"⟩].all fun location =>
        (outcome.2.nodeAt? location).isSome)) =
      some (.ok ⟨0⟩, some ⟨0, "/properties/a~0b"⟩, some ⟨0, "/properties/a~0b"⟩, true) := by decide +kernel
  obtain ⟨⟨result, final⟩, hlink, hfacts⟩ := Option.map_eq_some_iff.mp hfinal
  simp only [Prod.mk.injEq, Bool.and_eq_true, List.all_cons, List.all_nil, Option.isSome_iff_exists] at hfacts
  obtain ⟨rfl, hx, hy, hescaped, ⟨id, hid⟩, ⟨first, hfirst⟩, ⟨second, hsecond⟩, _⟩ := hfacts
  have hwritten (location : Location) (id : SchemaId) (target : Location) (hid : Located final location id)
      (hhop : final.hop UriRules.web location = some target) : Written target.pointer := by
    obtain ⟨before, after, hplaced, _⟩ := List.lookup_eq_some_iff.mp hid
    have hmem : (location, id) ∈ final.placed := by simp [hplaced]
    simpa [hhop] using List.all_eq_true.mp hescaped _ hmem
  have hsame {location : Location} {other : SchemaId} (hother : Located final location other)
      (hhop : final.hop UriRules.web location = some ⟨0, "/properties/a~0b"⟩) : other = id :=
    (link?_samePlace canonical_default hlink).2 hwritten location _ _ _ other id hother hid (.inr hhop) (.inl rfl)
      ⟨rfl, rfl⟩
  obtain rfl := hsame hfirst hx
  obtain rfl := hsame hsecond hy
  exact ⟨⟨0⟩, final, hlink, _, hid, hfirst, hsecond⟩

def tildeBare : Json :=
  .object [("properties", .object [("x", .object [("$ref", .string "#/definitions/a~b")]),
    ("y", .object [("$ref", .string "#/definitions/a~0b")])]), ("definitions", .object [("a~b", .object [])])]

/-- Links that stand for the same place may have different nodes. -/
theorem samePlace_read_twice :
    ¬∀ document root final, ({} : Reader).link? document = some (.ok root, final) →
      ∀ location other target target' id id', Located final location id → Located final other id' →
        final.StandsFor ({} : Reader).source.rules location target →
        final.StandsFor ({} : Reader).source.rules other target' → SamePlace target target' → id = id' := by
  intro h
  have hfinal : (({} : Reader).link? tildeBare).map (fun outcome => (outcome.1,
      outcome.2.hop UriRules.web ⟨0, "/properties/x"⟩, outcome.2.hop UriRules.web ⟨0, "/properties/y"⟩)) =
      some (.ok ⟨0⟩, some ⟨0, "/definitions/a~b"⟩, some ⟨0, "/definitions/a~0b"⟩) := by decide +kernel
  obtain ⟨⟨result, final⟩, hlink, hfacts⟩ := Option.map_eq_some_iff.mp hfinal
  simp only [Prod.mk.injEq] at hfacts
  obtain ⟨rfl, hx, hy⟩ := hfacts
  have hplaced : (({} : Reader).link? tildeBare).map (fun outcome =>
      (outcome.2.nodeAt? ⟨0, "/properties/x"⟩, outcome.2.nodeAt? ⟨0, "/properties/y"⟩)) =
      some (some ⟨1⟩, some ⟨2⟩) := by decide +kernel
  simp only [hlink, Option.map_some, Option.some.injEq, Prod.mk.injEq] at hplaced
  have heq : (⟨1⟩ : SchemaId) = ⟨2⟩ :=
    h _ _ final hlink _ _ _ _ _ _ hplaced.1 hplaced.2 (.inr hx) (.inr hy) ⟨rfl, by decide⟩
  cases heq

end Reader

end JsonSchema
