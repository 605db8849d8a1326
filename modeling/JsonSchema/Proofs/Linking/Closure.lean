import JsonSchema.Proofs.Linking.Survey

/-!
What a read that succeeds has come to: every place that it may come to, with the node that belongs there. So there was
no fault on the map, and every chain of references on it ends.
-/
namespace JsonSchema

theorem Mirrors.exists_child {located : Location → SchemaId → Prop} {location : Location} {members : Members Json}
    {node : SchemaNode} (h : Mirrors located location members node) (hnodup : (Members.names members).Nodup)
    (hunaliased : Unaliased members) {keyword : Keyword} {value : Json} (hmem : (keyword.name, value) ∈ members)
    {steps : List String} (hsteps : steps ∈ keyword.places value) : ∃ id, located (location.child steps) id := by
  have hname : keyword.name ∈ Members.names members := List.mem_map.mpr ⟨_, hmem, rfl⟩
  have hlinked {places : List (List String)} {links : List (Option String × SchemaId)} {other : Keyword}
      (hall : List.Forall₂ (LeadsAlong located location other) places links) (hplace : steps ∈ places) :
      ∃ id, located (location.child steps) id := by
    obtain ⟨link, _, _, hlocated⟩ := Check.exists_right_of_forall₂ hall hplace
    exact ⟨link.2, hlocated⟩
  by_cases hall : keyword = .allOf
  · subst hall
    obtain ⟨before, after, hsplit⟩ := List.append_of_mem hmem
    exact hlinked (h.bases before value after hsplit) (List.mem_append_left _ hsteps)
  · by_cases hbase : keyword = .extending
    · subst hbase
      have hparents := h.parents fun hname' => hunaliased.bases hname' hname
      rw [parentPlaces, Members.find?_of_mem hnodup hmem] at hparents
      exact hlinked hparents hsteps
    · exact hlinked (h.links keyword value hmem hall hbase) hsteps

namespace Corpus

open LinkState Linking

variable {corpus : Corpus} {chart : List Home} {final : LinkState} {place target : Place} {id root : SchemaId}
  {location : Location} {inherited : Option String} {way : List Home}

def HasNode (chart : List Home) (state : LinkState) (place : Place) (id : SchemaId) : Prop :=
  ∃ number, chart[number]? = some place.home ∧ state.nodeAt? ⟨number, place.pointer⟩ = some id

/-- What is left of a read that succeeds. -/
structure Completed (corpus : Corpus) (chart : List Home) (final : LinkState) (root : SchemaId) : Prop where
  sound : Sound corpus.reader.source [] final
  surveyed : corpus.Surveyed chart [] final
  root : final.nodeAt? ⟨0, ""⟩ = some root

/-- A read stays on the map or has met a fault. -/
theorem link?_found (hcanonical : corpus.reader.source.Canonical) (hclear : corpus.Unambiguous) :
    corpus.Found [none] [] (corpus.reader.link? corpus.document) := by
  have hcharted := Charted.start corpus
  obtain ⟨loaded, _, hstart⟩ := corpus.reader.start_cases corpus.document
  have hcomes : corpus.Comes [none] ⟨⟨0, ""⟩,
      ((corpus.reader.start corpus.document).versionOf 0).or corpus.reader.options.defaultVersion⟩ := by
    refine ⟨none, [none], rfl, ?_, fun _ hmem => hmem⟩
    rw [hcharted.versionOf_eq rfl]
    exact .root
  refine visit_found hcanonical hclear _ _ (corpus.reader.sound_start _) (corpus.reader.onWay_start _ _)
    ⟨hcharted, ?_, ?_, ?_⟩ hcomes
  · rw [hstart]
    exact fun _ hmem => nomatch hmem
  · rw [hstart]
    exact fun _ _ hid => nomatch hid
  · rw [hstart]
    exact fun _ _ _ hid => nomatch hid

theorem exists_completed (hcanonical : corpus.reader.source.Canonical) (hclear : corpus.Unambiguous)
    (h : corpus.reader.link? corpus.document = some (.ok root, final)) :
    ∃ chart, corpus.Completed chart final root := by
  have hfound := link?_found hcanonical hclear
  rw [h] at hfound
  obtain ⟨chart, _, hsurveyed⟩ := hfound
  have hvisited := corpus.reader.visited_root corpus.document hcanonical h
  exact ⟨chart, hvisited.sound, hsurveyed, hvisited.placed⟩

namespace Completed

theorem exists_target (h : corpus.Completed chart final root) (hnode : HasNode chart final place id)
    {reference : String}
    (href : corpus.refAt? place = some reference) :
    ∃ target, corpus.Names place reference target ∧ HasNode chart final target id := by
  obtain ⟨number, hhome, hid⟩ := hnode
  have href' : final.refAt? ⟨number, place.pointer⟩ = some reference := (h.surveyed.charted.refAt?_eq hhome).trans href
  cases h.sound.settled _ _ hid with
  | schema _ _ hnone => simp [href'] at hnone
  | reference _ hhop hnext =>
    obtain ⟨other, hother, hresolve⟩ := hop_eq_some_iff.mp hhop
    obtain rfl := Option.some.inj (href'.symm.trans hother)
    obtain ⟨home, hhome', hnames⟩ := h.surveyed.charted.names_of_resolve? hhome hresolve
    exact ⟨⟨home, _⟩, hnames, _, hhome', hnext.nodeAt?⟩

theorem met (h : corpus.Completed chart final root) (hnode : HasNode chart final place id) :
    ∃ inherited way, corpus.MayVisit place inherited way := by
  obtain ⟨number, hhome, hid⟩ := hnode
  obtain ⟨home, inherited, way, hhome', hvisit⟩ := h.surveyed.placed _ _ hid
  obtain rfl : place.home = home := Option.some.inj (hhome.symm.trans hhome')
  exact ⟨inherited, way, hvisit⟩

theorem schema_cases (h : corpus.Completed chart final root) {number : Nat} (hhome : chart[number]? = some place.home)
    (hid : final.nodeAt? ⟨number, place.pointer⟩ = some id) (href : corpus.refAt? place = none) :
    (∃ valid, corpus.valueAt? place = some (.bool valid) ∧ final.graph.get? id = some (.boolean valid)) ∨
      ∃ members node read inherited way, corpus.valueAt? place = some (.object members) ∧
        Members.find? members Keyword.reference.name = none ∧ final.graph.get? id = some node ∧
        (readObject ⟨number, place.pointer⟩ members read).Yields
          (UnfinishedNode.AtPlace fun location id => final.nodeAt? location = some id) node ∧
        corpus.MayVisit place inherited way ∧ siteVersion members read = siteVersion members inherited := by
  have href' : final.refAt? ⟨number, place.pointer⟩ = none := (h.surveyed.charted.refAt?_eq hhome).trans href
  have hvalue : final.valueAt? ⟨number, place.pointer⟩ = corpus.valueAt? place := h.surveyed.charted.valueAt?_eq hhome
  obtain ⟨node, hget, ⟨valid, hbool, rfl⟩ | ⟨members, read, hobject, hyields⟩⟩ := h.sound.exists_depicted hid href'
  · exact .inl ⟨valid, hvalue ▸ hbool, hget⟩
  · obtain ⟨hmember, hopen | hread⟩ := h.surveyed.objects _ _ members hid href' hobject
    · cases hopen
    · obtain ⟨other, home, inherited, way, hother, hhome', hvisit, hversion⟩ := hread
      obtain rfl := Option.some.inj (hget.symm.trans hother)
      obtain rfl : place.home = home := Option.some.inj (hhome.symm.trans hhome')
      rw [version_of_readObject hyields] at hversion
      exact .inr ⟨members, node, read, inherited, way, hvalue ▸ hobject, hmember, hget, hyields, hvisit, hversion⟩

/-- Whatever holds of a reference if it holds of the place that it names, and holds of schemas, holds of every place
with a node. -/
theorem induction_on {motive : Place → Prop} (h : corpus.Completed chart final root)
    (hschema : ∀ place, HasNode chart final place id → corpus.refAt? place = none → motive place)
    (hreference : ∀ place reference target, HasNode chart final place id → corpus.refAt? place = some reference →
      corpus.Names place reference target → HasNode chart final target id → motive target → motive place)
    (hnode : HasNode chart final place id) : motive place := by
  obtain ⟨number, hhome, hid⟩ := hnode
  suffices hsettled : ∀ location, final.Settled corpus.reader.source.rules id location →
      ∀ home, chart[location.document]? = some home → motive ⟨home, location.pointer⟩ from
    hsettled _ (h.sound.settled _ _ hid) place.home hhome
  intro location hsettled
  induction hsettled with
  | @schema location hid _ hnone =>
    intro home hhome
    exact hschema _ ⟨_, hhome, hid⟩ ((h.surveyed.charted.refAt?_eq hhome).symm.trans hnone)
  | @reference location target hid hhop hnext ih =>
    intro home hhome
    obtain ⟨reference, href, hresolve⟩ := hop_eq_some_iff.mp hhop
    obtain ⟨home', hhome', hnames⟩ := h.surveyed.charted.names_of_resolve? hhome hresolve
    exact hreference _ reference ⟨home', target.pointer⟩ ⟨_, hhome, hid⟩
      ((h.surveyed.charted.refAt?_eq hhome).symm.trans href) hnames ⟨_, hhome', hnext.nodeAt?⟩ (ih home' hhome')

/-- A read that succeeds has come to every place that it may come to. -/
theorem hasNode_of_mayVisit (h : corpus.Completed chart final root) (hclear : corpus.Unambiguous)
    (hobjects : ∀ place members, corpus.valueAt? place = some (.object members) →
      (Members.names members).Nodup ∧ Unaliased members) (hvisit : corpus.MayVisit place inherited way) :
    ∃ id, HasNode chart final place id := by
  induction hvisit with
  | root => exact ⟨root, 0, h.surveyed.charted.first, h.root⟩
  | @inside place inherited way members keyword value steps _ hvalue hmember hmem hsteps ih =>
    obtain ⟨id, number, hhome, hid⟩ := ih
    have href : corpus.refAt? place = none := by simp [Corpus.refAt?, hvalue, Json.member?, hmember]
    rcases h.schema_cases hhome hid href with ⟨valid, hbool, _⟩ | ⟨other, node, read, _, _, hother, _, _, hyields, _⟩
    · rw [hvalue] at hbool
      cases hbool
    · obtain ⟨rfl⟩ := Option.some.inj (hvalue.symm.trans hother)
      obtain ⟨hnodup, hunaliased⟩ := hobjects place members hvalue
      have hmirrors :
          Mirrors (fun location id => final.nodeAt? location = some id) ⟨number, place.pointer⟩ members node :=
        mirrors_of_readObject hyields hnodup
      obtain ⟨child, hchild⟩ := hmirrors.exists_child hnodup hunaliased hmem hsteps
      exact ⟨child, number, hhome, hchild⟩
  | reference hvisit href hnames ih =>
    obtain ⟨id, hnode⟩ := ih
    obtain ⟨target, hnames', hnode'⟩ := h.exists_target hnode href
    obtain rfl := hclear.eq_of_names hvisit href hnames hnames'
    exact ⟨id, hnode'⟩

end Completed

end Corpus

end JsonSchema
