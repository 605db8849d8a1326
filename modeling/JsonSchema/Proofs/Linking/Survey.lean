import JsonSchema.Proofs.Linking.Chart

/-!
Linking stays on the map. All places that get a node, and all references on the way, are ones that reading may come to,
and objects are read under drafts that their places may inherit. A visit that fails has met a fault at such a place.
-/
namespace JsonSchema.Corpus

open LinkState Linking

variable {corpus : Corpus} {chart chart' : List Home} {opened : List Location} {location target : Location}
  {inherited : Option String} {state first second next : LinkState} {id : SchemaId} {members : Members Json}

def Met (corpus : Corpus) (chart : List Home) (location : Location) : Prop :=
  ∃ home inherited way, chart[location.document]? = some home ∧
    corpus.MayVisit ⟨home, location.pointer⟩ inherited way

/-- Reading may come to a place with what it inherits there, on a way through documents that have been met. -/
def Comes (corpus : Corpus) (chart : List Home) (visit : Visit) : Prop :=
  ∃ home way, chart[visit.location.document]? = some home ∧
    corpus.MayVisit ⟨home, visit.location.pointer⟩ visit.inherited way ∧ ∀ passed ∈ way, passed ∈ chart

theorem Met.mono (hle : chart <+: chart') (h : corpus.Met chart location) : corpus.Met chart' location := by
  obtain ⟨home, inherited, way, hhome, hvisit⟩ := h
  exact ⟨home, inherited, way, getElem?_of_extension hle hhome, hvisit⟩

namespace Comes

variable {visit : Visit}

theorem mono (hle : chart <+: chart') (h : corpus.Comes chart visit) : corpus.Comes chart' visit := by
  obtain ⟨home, way, hhome, hvisit, hway⟩ := h
  exact ⟨home, way, getElem?_of_extension hle hhome, hvisit, fun passed hmem => hle.subset (hway passed hmem)⟩

theorem met (h : corpus.Comes chart visit) : corpus.Met chart visit.location := by
  obtain ⟨home, way, hhome, hvisit, _⟩ := h
  exact ⟨home, _, way, hhome, hvisit⟩

theorem inside (h : corpus.Comes chart ⟨location, inherited⟩) (hcharted : corpus.Charted chart state)
    (hvalue : state.valueAt? location = some (.object members))
    (href : Members.find? members Keyword.reference.name = none) {keyword : Keyword} {value : Json}
    (hmem : (keyword.name, value) ∈ members) {place : Visit}
    (hasks : Site.Asks ⟨location, siteVersion members inherited⟩ keyword value place) : corpus.Comes chart place := by
  obtain ⟨home, way, hhome, hvisit, hway⟩ := h
  obtain ⟨steps, hsteps, rfl⟩ := hasks
  rw [hcharted.valueAt?_eq hhome] at hvalue
  exact ⟨home, way, hhome, .inside hvisit hvalue href hmem hsteps, hway⟩

theorem follow (h : corpus.Comes chart ⟨location, inherited⟩) (hcharted : corpus.Charted chart state)
    {reference : String} (href : state.refAt? location = some reference)
    (hresolve : state.resolve? corpus.rules location reference = some target) :
    corpus.Comes chart ⟨target, state.passOn location target inherited⟩ := by
  obtain ⟨home, way, hhome, hvisit, hway⟩ := h
  obtain ⟨home', hhome', hnames⟩ := hcharted.names_of_resolve? hhome hresolve
  have hsame : target.document = location.document ↔ home' = home := by
    refine ⟨fun heq => ?_, fun heq => hcharted.number_eq (heq ▸ hhome') hhome⟩
    rw [heq, hhome] at hhome'
    exact (Option.some.inj hhome').symm
  have hpass : state.passOn location target inherited =
      if home' = home then inherited else (corpus.versionOf home').or inherited := by
    simp only [passOn, hsame, hcharted.versionOf_eq hhome']
  rw [hcharted.refAt?_eq hhome] at href
  refine ⟨home', home' :: way, hhome', ?_, ?_⟩
  · rw [hpass]
    exact .reference hvisit href hnames
  · exact List.forall_mem_cons.mpr ⟨List.mem_of_getElem? hhome', hway⟩

end Comes

/-- An object is read under a draft that its place may inherit. -/
def ReadAt (corpus : Corpus) (chart : List Home) (graph : SchemaGraph) (location : Location) (members : Members Json)
    (id : SchemaId) : Prop :=
  ∃ node home inherited way, graph.get? id = some node ∧ chart[location.document]? = some home ∧
    corpus.MayVisit ⟨home, location.pointer⟩ inherited way ∧ node.version = siteVersion members inherited

theorem ReadAt.mono (hle : chart <+: chart') {graph graph' : SchemaGraph} (hget : graph'.get? id = graph.get? id)
    (h : corpus.ReadAt chart graph location members id) : corpus.ReadAt chart' graph' location members id := by
  obtain ⟨node, home, inherited, way, hnode, hhome, hvisit, hversion⟩ := h
  exact ⟨node, home, inherited, way, hget ▸ hnode, getElem?_of_extension hle hhome, hvisit, hversion⟩

/-- What is known of places and nodes, with the schema objects that are being read. -/
structure Surveyed (corpus : Corpus) (chart : List Home) (opened : List Location) (state : LinkState) : Prop where
  charted : corpus.Charted chart state
  underway : ∀ location ∈ state.underway, corpus.Met chart location
  placed : ∀ location id, state.nodeAt? location = some id → corpus.Met chart location
  objects : ∀ location id members, state.nodeAt? location = some id → state.refAt? location = none →
    state.valueAt? location = some (.object members) → Members.find? members Keyword.reference.name = none ∧
      (location ∈ opened ∨ corpus.ReadAt chart state.graph location members id)

namespace Surveyed

theorem load (h : corpus.Surveyed chart opened first) (hsound : Sound corpus.reader.source opened first)
    (hloads : Loads corpus.reader.source first second) :
    ∃ chart', chart <+: chart' ∧ corpus.Surveyed chart' opened second := by
  obtain ⟨chart', hle, hcharted⟩ := h.charted.load hloads
  obtain ⟨hgraph, hplaced, hunderway⟩ := hloads.frame
  have hnode (location : Location) : second.nodeAt? location = first.nodeAt? location := by
    rw [nodeAt?, nodeAt?, hplaced]
  refine ⟨chart', hle, hcharted, ?_, ?_, ?_⟩
  · exact fun location hmem => (h.underway location (hunderway ▸ hmem)).mono hle
  · exact fun location id hid => (h.placed location id (hnode location ▸ hid)).mono hle
  · intro location id members hid href hvalue
    rw [hnode] at hid
    have hsome := (hsound.settled location id hid).isSome_valueAt?
    rw [LinkState.refAt?_eq hloads.le hsome] at href
    rw [LinkState.valueAt?_eq hloads.le hsome] at hvalue
    refine (h.objects location id members hid href hvalue).imp_right (Or.imp_right fun hread => ?_)
    exact hread.mono hle (by rw [hgraph])

theorem add (h : corpus.Surveyed chart opened state) (hsound : Sound corpus.reader.source opened state)
    (hmet : corpus.Met chart location) {node : SchemaNode} {more : List Location} (hsub : opened ⊆ more)
    (hobject : ∀ members, state.valueAt? location = some (.object members) →
      Members.find? members Keyword.reference.name = none ∧ location ∈ more) :
    corpus.Surveyed chart more (state.withNode location node) := by
  refine ⟨h.charted.of_same rfl rfl, h.underway, ?_, ?_⟩
  · intro other id hid
    rcases nodeAt?_withNode_cases hid with ⟨rfl, _⟩ | hid'
    · exact hmet
    · exact h.placed other id hid'
  · intro other id members hid href hvalue
    rcases nodeAt?_withNode_cases hid with ⟨rfl, _⟩ | hid'
    · exact (hobject members hvalue).imp_right .inl
    · refine (h.objects other id members hid' href hvalue).imp_right (Or.imp (hsub ·) fun hread => ?_)
      exact hread.mono List.prefix_rfl (SchemaGraph.get?_add_of_lt (hsound.bounded other id hid') node)

theorem share (h : corpus.Surveyed chart opened state) (hmet : corpus.Met chart location) {reference : String}
    (href : state.refAt? location = some reference) (id : SchemaId) :
    corpus.Surveyed chart opened (state.locate location id) := by
  refine ⟨h.charted.of_same rfl rfl, h.underway, ?_, ?_⟩
  · intro other id' hid
    rw [nodeAt?_locate] at hid
    split at hid
    · subst other
      exact hmet
    · exact h.placed other id' hid
  · intro other id' members hid hnone hvalue
    rw [nodeAt?_locate] at hid
    split at hid
    · subst other
      exact absurd (href.symm.trans hnone) (by simp)
    · exact h.objects other id' members hid hnone hvalue

theorem setOut (h : corpus.Surveyed chart opened state) (hmet : corpus.Met chart location) :
    corpus.Surveyed chart opened (state.setOut location) :=
  ⟨h.charted.of_same rfl rfl, List.forall_mem_cons.mpr ⟨hmet, h.underway⟩, h.placed, h.objects⟩

theorem arrive (h : corpus.Surveyed chart opened state) (hmet : corpus.Met chart location) {reference : String}
    (href : state.refAt? location = some reference) (id : SchemaId) :
    corpus.Surveyed chart opened (state.arrive location id) := by
  have hshared := h.share hmet href id
  exact ⟨hshared.charted.of_same rfl rfl, fun other hmem => h.underway other (List.mem_of_mem_erase hmem),
    hshared.placed, hshared.objects⟩

theorem complete (h : corpus.Surveyed chart (location :: opened) state)
    (hsound : Sound corpus.reader.source (location :: opened) state) (hid : state.nodeAt? location = some id)
    (hvalue : state.valueAt? location = some (.object members)) (hcomes : corpus.Comes chart ⟨location, inherited⟩)
    {node : SchemaNode} (hversion : node.version = siteVersion members inherited) :
    corpus.Surveyed chart opened (state.complete id node) := by
  have hself : (state.complete id node).graph.get? id = some node :=
    SchemaGraph.get?_set_self (hsound.bounded location id hid) node
  obtain ⟨hnone, _⟩ := hsound.empty location (List.mem_cons_self ..)
  refine ⟨h.charted.of_same rfl rfl, h.underway, h.placed, ?_⟩
  intro other id' members' hid' href' hvalue'
  obtain ⟨hplain, hread⟩ := h.objects other id' members' hid' href' hvalue'
  refine ⟨hplain, ?_⟩
  by_cases hsame : other = location
  · subst other
    obtain rfl := Option.some.inj (hid.symm.trans hid')
    obtain ⟨rfl⟩ := Option.some.inj (hvalue.symm.trans hvalue')
    obtain ⟨home, way, hhome, hvisit, _⟩ := hcomes
    exact .inr ⟨node, home, inherited, way, hself, hhome, hvisit, hversion⟩
  · rcases hread with hmem | hread
    · exact .inl ((List.mem_cons.mp hmem).resolve_left hsame)
    · refine .inr (hread.mono List.prefix_rfl (SchemaGraph.get?_set_of_ne ?_ node))
      rintro rfl
      exact hsame (hsound.injective other location _ hid' hid href' hnone)

end Surveyed

/-- A place that reading cannot get past. -/
inductive FaultAt (corpus : Corpus) (place : Place) (inherited : Option String) : Prop
  | noSchema : corpus.refAt? place = none → (∀ valid, corpus.valueAt? place ≠ some (.bool valid)) →
    (∀ members, corpus.valueAt? place = some (.object members) →
      Members.find? members Keyword.reference.name ≠ none) → FaultAt corpus place inherited
  | unresolved {reference : String} : corpus.refAt? place = some reference →
    (∀ target, ¬corpus.Names place reference target) → FaultAt corpus place inherited
  | object {members : Members Json} {location : Location} : corpus.valueAt? place = some (.object members) →
    Members.find? members Keyword.reference.name = none → ¬Site.Sure (readObject location members inherited) →
    FaultAt corpus place inherited

/-- What a visit finds out, if it comes to an end. -/
def Found (corpus : Corpus) (chart : List Home) (opened : List Location) : Outcome SchemaId → Prop
  | none => True
  | some (.ok _, next) => ∃ chart', chart <+: chart' ∧ corpus.Surveyed chart' opened next
  | some (.error error, final) =>
    (∃ chart', corpus.Charted chart' final ∧ ∀ location ∈ final.underway, corpus.Met chart' location) ∧
      (error.IsPlain → ∃ place inherited way, corpus.MayVisit place inherited way ∧ corpus.FaultAt place inherited)

theorem Found.mono (hle : chart <+: chart') {outcome : Outcome SchemaId} (h : corpus.Found chart' opened outcome) :
    corpus.Found chart opened outcome := by
  rcases outcome with _ | ⟨_ | _, _⟩
  · trivial
  · exact h
  · obtain ⟨chart'', hle', hsurveyed⟩ := h
    exact ⟨chart'', hle.trans hle', hsurveyed⟩

theorem Found.of_fault (h : corpus.Surveyed chart opened next) (hcomes : corpus.Comes chart ⟨location, inherited⟩)
    (error : ReadError) (hfault : ∀ home, chart[location.document]? = some home →
      error.IsPlain → corpus.FaultAt ⟨home, location.pointer⟩ inherited) :
    corpus.Found chart opened (some (.error error, next)) := by
  obtain ⟨home, way, hhome, hvisit, _⟩ := hcomes
  exact ⟨⟨chart, h.charted, h.underway⟩, fun hplain => ⟨_, _, way, hvisit, hfault home hhome hplain⟩⟩

def AllFound (corpus : Corpus) (visit : Visit → Linking SchemaId) : Prop :=
  ∀ chart opened place state, Sound corpus.reader.source opened state →
    OnWay corpus.reader.source.rules (place.location :: opened) state → corpus.Surveyed chart opened state →
    corpus.Comes chart place → corpus.Found chart opened (run (visit place) state)

variable {visit : Visit → Linking SchemaId}

def Ongoing (corpus : Corpus) (chart : List Home) (opened underway : List Location) (now : LinkState) : Prop :=
  Kept corpus.reader.source opened underway now ∧
    ∃ chart', chart <+: chart' ∧ corpus.Surveyed chart' opened now

theorem Ongoing.answers {underway : List Location} {now after : LinkState} {place : Visit}
    (h : corpus.Ongoing chart opened underway now) (hend : AllEnd corpus.reader.source visit)
    (hfound : corpus.AllFound visit) (hplace : corpus.Comes chart place)
    (hrun : Inquiry.Answers visit place now id after) : corpus.Ongoing chart opened underway after := by
  obtain ⟨hkept, chart', hle, hsurveyed⟩ := h
  have hafter := hfound chart' _ place now hkept.sound (hkept.onWayTo place.location) hsurveyed (hplace.mono hle)
  rw [show run (visit place) now = _ from hrun] at hafter
  obtain ⟨chart'', hle', hsurveyed'⟩ := hafter
  exact ⟨(hkept.answers hend place id hrun).1.1, chart'', hle.trans hle', hsurveyed'⟩

theorem found_object (hsound : Sound corpus.reader.source opened state)
    (honWay : OnWay corpus.reader.source.rules (location :: opened) state)
    (hsurveyed : corpus.Surveyed chart opened state) (hcomes : corpus.Comes chart ⟨location, inherited⟩)
    (hfresh : state.nodeAt? location = none) (hvalue : state.valueAt? location = some (.object members))
    (hmember : Members.find? members Keyword.reference.name = none) (hend : AllEnd corpus.reader.source visit)
    (hfound : corpus.AllFound visit) :
    corpus.Found chart opened (Outcome.andThen
      (run ((readObject location members inherited).run visit) (state.opening location))
      fun node next => (⟨state.graph.size⟩, next.complete ⟨state.graph.size⟩ node)) := by
  have href : state.refAt? location = none := by simp [LinkState.refAt?, hvalue, Json.member?, hmember]
  obtain ⟨hkept, hle⟩ := hsound.opening honWay hfresh (by simp [hvalue]) href
  have hopening : corpus.Surveyed chart (location :: opened) (state.opening location) := by
    refine hsurveyed.add hsound hcomes.met (List.subset_cons_self ..) fun members' hvalue' => ?_
    obtain ⟨rfl⟩ := Option.some.inj (hvalue.symm.trans hvalue')
    exact ⟨hmember, List.mem_cons_self ..⟩
  have hasks : (readObject location members inherited).AsksOnly (corpus.Comes chart) := by
    refine (asksOnly_readObject location members inherited).mono ?_
    rintro _ ⟨_, _, hmem, hasks⟩
    exact hcomes.inside hsurveyed.charted hvalue hmember hmem hasks
  have hstart : corpus.Ongoing chart (location :: opened) state.underway (state.opening location) :=
    ⟨hkept, chart, List.prefix_rfl, hopening⟩
  have hstep (place : Visit) (now : LinkState) (id : SchemaId) (after : LinkState) (hplace : corpus.Comes chart place)
      (hnow : corpus.Ongoing chart (location :: opened) state.underway now)
      (hrun : Inquiry.Answers visit place now id after) :
      corpus.Ongoing chart (location :: opened) state.underway after :=
    hnow.answers hend hfound hplace hrun
  cases hrun : run ((readObject location members inherited).run visit) (state.opening location) with
  | none => trivial
  | some outcome =>
    obtain ⟨error | node, final⟩ := outcome
    · obtain ⟨rest, last, hreach, hrest⟩ := Inquiry.reaches_of_run_error hrun
      obtain ⟨hkeptLast, chart', hle', hsurveyed'⟩ := hreach.keepsAsked hasks hstep hstart
      rcases hrest with ⟨rfl, rfl⟩ | ⟨place, _, rfl, hfail⟩
      · refine .mono hle' (.of_fault hsurveyed' (hcomes.mono hle') error fun home hhome _ => ?_)
        obtain ⟨root, way, hroot, _⟩ := hcomes
        obtain rfl := Option.some.inj ((getElem?_of_extension hle' hroot).symm.trans hhome)
        rw [hsurveyed.charted.valueAt?_eq hroot] at hvalue
        exact .object hvalue hmember fun hsure => hreach.failsOnly hsure
      · have hplace := (hreach.asksOnly hasks).1
        have hafter := hfound chart' _ place last hkeptLast.sound (hkeptLast.onWayTo place.location) hsurveyed'
          (hplace.mono hle')
        rwa [hfail] at hafter
    · have hreach := Inquiry.reaches_of_run_ok hrun
      obtain ⟨hkeptLast, chart', hle', hsurveyed'⟩ := hreach.keepsAsked hasks hstep hstart
      have hyields := hreach.yields (fun _ _ _ => True)
        (fun place _ id _ hnow hrun => ⟨(Kept.answers hend place id hnow hrun).1, trivial⟩)
        (fun _ _ _ _ _ _ => trivial) hkept
      have hversion : node.version = siteVersion members inherited := version_of_readObject hyields
      have hplaced := (hkept.reaches hend hreach).2.placed _ _ (nodeAt?_withNode_self state location {})
      have hvalue' := valueAt?_mono (le_trans hle (hkept.reaches hend hreach).2) hvalue
      exact ⟨chart', hle', hsurveyed'.complete hkeptLast.sound hplaced hvalue' (hcomes.mono hle') hversion⟩

theorem found_followed (hsound : Sound corpus.reader.source opened next)
    (honWay : OnWay corpus.reader.source.rules (location :: opened) next)
    (hsurveyed : corpus.Surveyed chart opened next) (hcomes : corpus.Comes chart ⟨location, inherited⟩)
    {reference : String} (href : next.refAt? location = some reference)
    (hresolve : next.resolve? corpus.rules location reference = some target)
    (hend : AllEnd corpus.reader.source visit) (hfound : corpus.AllFound visit) :
    corpus.Found chart opened (Outcome.andThen
      (run (visit ⟨target, next.passOn location target inherited⟩) (next.setOut location))
      fun id after => (id, after.arrive location id)) := by
  have hhop : next.hop corpus.reader.source.rules location = some target :=
    hop_eq_some_iff.mpr ⟨reference, href, hresolve⟩
  obtain ⟨hstart, hway, hle⟩ := hsound.setOut honWay hhop
  have hended := hend opened ⟨target, next.passOn location target inherited⟩ (next.setOut location) hstart hway
  have hafter := hfound chart opened ⟨target, next.passOn location target inherited⟩ (next.setOut location) hstart hway
    (hsurveyed.setOut hcomes.met) (hcomes.follow hsurveyed.charted href hresolve)
  cases hrun : run (visit ⟨target, next.passOn location target inherited⟩) (next.setOut location) with
  | none => trivial
  | some outcome =>
    rw [hrun] at hended hafter
    obtain ⟨error | id, final⟩ := outcome
    · exact hafter
    · obtain ⟨chart', hle', hsurveyed'⟩ := hafter
      have href' : final.refAt? location = some reference := refAt?_mono (le_trans hle hended.le) href
      exact ⟨chart', hle', hsurveyed'.arrive (hcomes.met.mono hle') href' id⟩

/-- Every visit that ends stays on the map or has met a fault. -/
theorem visit_found (hcanonical : corpus.reader.source.Canonical) (hclear : corpus.Unambiguous) (rounds : Nat)
    (place : Visit) (hsound : Sound corpus.reader.source opened state)
    (honWay : OnWay corpus.reader.source.rules (place.location :: opened) state)
    (hsurveyed : corpus.Surveyed chart opened state) (hcomes : corpus.Comes chart place) :
    corpus.Found chart opened (run (Linking.visit corpus.reader.source rounds place) state) := by
  induction rounds generalizing chart place opened state with
  | zero => trivial
  | succ rounds ih =>
    obtain ⟨location, inherited⟩ := place
    have hend : AllEnd corpus.reader.source (Linking.visit corpus.reader.source rounds) :=
      fun _ place _ hs hw => visit_ended hcanonical rounds place hs hw
    have hfound : corpus.AllFound (Linking.visit corpus.reader.source rounds) :=
      fun _ _ place _ hs hw hsurveyed hcomes => ih place hs hw hsurveyed hcomes
    have hcases := visit_cases hcanonical rounds location inherited state
    generalize run (Linking.visit corpus.reader.source (rounds + 1) ⟨location, inherited⟩) state = outcome at hcases ⊢
    cases hcases with
    | known hid => exact ⟨chart, List.prefix_rfl, hsurveyed⟩
    | @fault error hfresh href hplain hholds =>
      refine .of_fault hsurveyed hcomes error fun home hhome _ => ?_
      rw [HoldsNoSchema, hsurveyed.charted.valueAt?_eq hhome] at hholds
      exact .noSchema (hsurveyed.charted.refAt?_eq hhome ▸ href) hholds.1 hholds.2
    | boolean hfresh hvalue =>
      refine ⟨chart, List.prefix_rfl, hsurveyed.add hsound hcomes.met (List.Subset.refl _) fun members hobject => ?_⟩
      rw [hvalue] at hobject
      cases hobject
    | object hfresh hvalue hmember =>
      exact found_object hsound honWay hsurveyed hcomes hfresh hvalue hmember hend hfound
    | @unresolved reference next error hfresh href hloads hresolve hplain hconsulted =>
      obtain ⟨chart', hle, hsurveyed'⟩ := hsurveyed.load hsound hloads
      refine .mono hle (.of_fault hsurveyed' (hcomes.mono hle) error fun home hhome _ => ?_)
      obtain ⟨home', way, hhome', hvisit, hway⟩ := hcomes.mono hle
      obtain rfl := Option.some.inj (hhome.symm.trans hhome')
      have href' := hsurveyed'.charted.refAt?_eq hhome ▸ refAt?_mono hloads.le href
      refine .unresolved href' fun target hnames => ?_
      refine hsurveyed'.charted.resolve?_ne_none hhome hconsulted (fun hfar hroot home' hanswers => ?_) hnames hresolve
      refine (hclear _ _ _ _ hvisit href' hfar hroot home' hanswers).imp_left (Or.imp_right (hway home'))
    | shared hfresh href hloads hresolve hid =>
      obtain ⟨chart', hle, hsurveyed'⟩ := hsurveyed.load hsound hloads
      exact ⟨chart', hle, hsurveyed'.share (hcomes.met.mono hle) (refAt?_mono hloads.le href) _⟩
    | circular hfresh href hloads hresolve hid hunderway =>
      obtain ⟨chart', hle, hsurveyed'⟩ := hsurveyed.load hsound hloads
      exact .mono hle (.of_fault hsurveyed' (hcomes.mono hle) _ fun _ _ hplain => absurd rfl (hplain _ _))
    | followed hfresh href hloads hresolve hid hnew hversion =>
      obtain ⟨chart', hle, hsurveyed'⟩ := hsurveyed.load hsound hloads
      have honWay' := honWay.of_same hloads.le hloads.frame.2.2 (List.Subset.refl _)
      subst hversion
      exact .mono hle (found_followed (hsound.load hloads) honWay' hsurveyed' (hcomes.mono hle)
        (refAt?_mono hloads.le href) hresolve hend hfound)

end JsonSchema.Corpus
