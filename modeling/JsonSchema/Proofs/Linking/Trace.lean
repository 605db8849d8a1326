import JsonSchema.Proofs.CircularReference
import JsonSchema.Proofs.Linking.Permutation
import JsonSchema.Proofs.Reading

/-!
How reading comes to places. It begins at the root, goes from an object into the places of its keywords, and from a
reference to the place that it names; every place that gets a node is come to in this way, and every object is read
under the draft that it inherits on one of these ways.
-/
namespace JsonSchema

namespace LinkState

variable {rules : UriRules} {source : LinkSource} {origin : Visit} {opened more : List Location}
  {location target : Location} {inherited : Option String} {state first second next : LinkState} {id : SchemaId}
  {members : Members Json}

/-- Reading that begins with a visit comes to a place with a draft address to inherit. -/
inductive ComesTo (rules : UriRules) (origin : Visit) (state : LinkState) : Location → Option String → Prop
  | start : ComesTo rules origin state origin.location origin.inherited
  | inside {location : Location} {inherited : Option String} {members : Members Json} {keyword : Keyword}
    {value : Json} {steps : List String} : ComesTo rules origin state location inherited → state.Reached location →
    state.valueAt? location = some (.object members) → Members.find? members Keyword.reference.name = none →
    (keyword.name, value) ∈ members → steps ∈ keyword.places value →
    ComesTo rules origin state (location.child steps) (siteVersion members inherited)
  | reference {location target : Location} {inherited : Option String} : ComesTo rules origin state location inherited →
    state.Reached location → state.hop rules location = some target →
    ComesTo rules origin state target (state.passOn location target inherited)

theorem versionOf_eq (hle : first ≤ second) {number : Nat} {document : LoadedDocument}
    (h : first.documents[number]? = some document) : second.versionOf number = first.versionOf number := by
  simp [versionOf, h, hle.documents _ _ h]

theorem passOn_eq (hle : first ≤ second) (h : (first.valueAt? target).isSome) (inherited : Option String) :
    second.passOn location target inherited = first.passOn location target inherited := by
  obtain ⟨document, hdocument⟩ := exists_document_of_valueAt? h
  simp only [passOn, versionOf_eq hle hdocument]

theorem isSome_valueAt?_of_hop (h : state.hop rules location = some target) : (state.valueAt? target).isSome := by
  obtain ⟨_, _, hresolve⟩ := hop_eq_some_iff.mp h
  exact (resolve?_eq_some_iff.mp hresolve).2.2

/-- More is known, and the places that reading has come to are still among those that it has come to. -/
structure Advances (first second : LinkState) : Prop where
  le : first ≤ second
  reached : ∀ location, first.Reached location → second.Reached location

namespace Advances

theorem trans {third : LinkState} (h : first.Advances second) (h' : second.Advances third) : first.Advances third :=
  ⟨le_trans h.le h'.le, fun location hreached => h'.reached location (h.reached location hreached)⟩

theorem of_underway (hle : first ≤ second) (h : ∀ location ∈ first.underway, second.Reached location) :
    first.Advances second := by
  refine ⟨hle, fun location hreached => ?_⟩
  rcases hreached with hid | hmem
  · obtain ⟨id, hid⟩ := Option.isSome_iff_exists.mp hid
    exact .inl (by simp [hle.placed _ _ hid])
  · exact h location hmem

theorem of_same (hle : first ≤ second) (h : second.underway = first.underway) : first.Advances second :=
  of_underway hle fun _ hmem => .inr (h ▸ hmem)

end Advances

theorem ComesTo.mono (h : first.Advances second) (hcomes : ComesTo rules origin first location inherited) :
    ComesTo rules origin second location inherited := by
  induction hcomes with
  | start => exact .start
  | inside _ hreached hvalue href hmem hsteps ih =>
    exact .inside ih (h.reached _ hreached) (valueAt?_mono h.le hvalue) href hmem hsteps
  | reference _ hreached hhop ih =>
    rw [← passOn_eq h.le (isSome_valueAt?_of_hop hhop)]
    exact .reference ih (h.reached _ hreached) (hop_mono h.le hhop)

/-- What stands under the number of a document is what the document says of itself, and all places with nodes have been
come to. Objects that have been read are read under the draft that they inherit on the way. -/
structure Traced (rules : UriRules) (origin : Visit) (opened : List Location) (state : LinkState) : Prop where
  drafts : ∀ document ∈ state.documents,
    document.version = (document.root.member? Keyword.schema.name).bind Json.string?
  placed : ∀ location id, state.nodeAt? location = some id →
    ∃ inherited, ComesTo rules origin state location inherited
  objects : ∀ location id members, state.nodeAt? location = some id → state.refAt? location = none →
    state.valueAt? location = some (.object members) → location ∈ opened ∨
      ∃ node inherited, state.graph.get? id = some node ∧ ComesTo rules origin state location inherited ∧
        node.version = siteVersion members inherited

namespace Traced

theorem of_same (h : first.Traced source.rules origin opened) (hsound : Sound source opened first)
    (hadvances : first.Advances second) (hdrafts : ∀ document ∈ second.documents,
      document.version = (document.root.member? Keyword.schema.name).bind Json.string?)
    (hplaced : second.placed = first.placed) (hgraph : second.graph = first.graph) :
    second.Traced source.rules origin opened := by
  have hnode (location : Location) : second.nodeAt? location = first.nodeAt? location := by
    rw [nodeAt?, nodeAt?, hplaced]
  refine ⟨hdrafts, fun location id hid => ?_, fun location id members hid href hvalue => ?_⟩
  · obtain ⟨inherited, hcomes⟩ := h.placed location id (hnode location ▸ hid)
    exact ⟨inherited, hcomes.mono hadvances⟩
  · rw [hnode] at hid
    have hsome := (hsound.settled location id hid).isSome_valueAt?
    rw [LinkState.refAt?_eq hadvances.le hsome] at href
    rw [LinkState.valueAt?_eq hadvances.le hsome] at hvalue
    refine (h.objects location id members hid href hvalue).imp_right ?_
    rintro ⟨node, inherited, hget, hcomes, hversion⟩
    exact ⟨node, inherited, hgraph ▸ hget, hcomes.mono hadvances, hversion⟩

theorem load (h : first.Traced source.rules origin opened) (hsound : Sound source opened first)
    (hloads : Loads source first second) : second.Traced source.rules origin opened := by
  obtain ⟨hgraph, hplaced, hunderway⟩ := hloads.frame
  refine h.of_same hsound (.of_same hloads.le hunderway) ?_ hplaced hgraph
  rcases hloads with rfl | ⟨address, root, _, _, _, rfl⟩
  · exact h.drafts
  · intro document hmem
    rw [takeUp, foldl_register] at hmem
    rcases List.mem_append.mp hmem with hmem | hmem
    · exact h.drafts document hmem
    · obtain rfl := List.mem_singleton.mp hmem
      rfl

theorem add (h : state.Traced source.rules origin opened) (hsound : Sound source opened state)
    (hfresh : state.nodeAt? location = none) (hcomes : ComesTo source.rules origin state location inherited)
    {node : SchemaNode} (hsub : opened ⊆ more)
    (hobject : ∀ members, state.valueAt? location = some (.object members) → location ∈ more) :
    (state.withNode location node).Traced source.rules origin more := by
  have hadvances : state.Advances (state.withNode location node) := .of_same (le_withNode hfresh node) rfl
  refine ⟨h.drafts, fun other id hid => ?_, fun other id members hid href hvalue => ?_⟩
  · rcases nodeAt?_withNode_cases hid with ⟨rfl, _⟩ | hid'
    · exact ⟨inherited, hcomes.mono hadvances⟩
    · obtain ⟨inherited', hcomes'⟩ := h.placed other id hid'
      exact ⟨inherited', hcomes'.mono hadvances⟩
  · rcases nodeAt?_withNode_cases hid with ⟨rfl, _⟩ | hid'
    · exact .inl (hobject members hvalue)
    · refine (h.objects other id members hid' href hvalue).imp (hsub ·) ?_
      rintro ⟨old, inherited', hget, hcomes', hversion⟩
      refine ⟨old, inherited', ?_, hcomes'.mono hadvances, hversion⟩
      exact (SchemaGraph.get?_add_of_lt (hsound.bounded other id hid') node).trans hget

theorem share (h : state.Traced source.rules origin opened) (hsound : Sound source opened state)
    (hcomes : ComesTo source.rules origin state location inherited)
    (hhop : state.hop source.rules location = some target) (htarget : state.nodeAt? target = some id) :
    (state.locate location id).Traced source.rules origin opened := by
  have hadvances : state.Advances (state.locate location id) := .of_same (hsound.share hhop htarget).2 rfl
  obtain ⟨reference, href, _⟩ := hop_eq_some_iff.mp hhop
  refine ⟨h.drafts, fun other id' hid => ?_, fun other id' members hid hnone hvalue => ?_⟩
  · rw [nodeAt?_locate] at hid
    split at hid
    · subst other
      exact ⟨inherited, hcomes.mono hadvances⟩
    · obtain ⟨inherited', hcomes'⟩ := h.placed other id' hid
      exact ⟨inherited', hcomes'.mono hadvances⟩
  · rw [nodeAt?_locate] at hid
    split at hid
    · subst other
      exact absurd (href.symm.trans hnone) (by simp)
    · refine (h.objects other id' members hid hnone hvalue).imp_right ?_
      rintro ⟨node, inherited', hget, hcomes', hversion⟩
      exact ⟨node, inherited', hget, hcomes'.mono hadvances, hversion⟩

theorem complete (h : state.Traced source.rules origin (location :: opened))
    (hsound : Sound source (location :: opened) state) (hid : state.nodeAt? location = some id)
    (hvalue : state.valueAt? location = some (.object members))
    (hcomes : ComesTo source.rules origin state location inherited) {node : SchemaNode}
    (hversion : node.version = siteVersion members inherited) :
    (state.complete id node).Traced source.rules origin opened := by
  have hle : state ≤ state.complete id node := ⟨fun _ _ hd => hd, fun _ _ hk => hk, fun _ _ hp => hp⟩
  have hadvances : state.Advances (state.complete id node) := .of_same hle rfl
  obtain ⟨hnone, _⟩ := hsound.empty location (List.mem_cons_self ..)
  refine ⟨h.drafts, fun other id' hid' => ?_, fun other id' members' hid' href' hvalue' => ?_⟩
  · obtain ⟨inherited', hcomes'⟩ := h.placed other id' hid'
    exact ⟨inherited', hcomes'.mono hadvances⟩
  · by_cases hsame : other = location
    · subst other
      obtain rfl := Option.some.inj (hid.symm.trans hid')
      obtain ⟨rfl⟩ := Option.some.inj (hvalue.symm.trans hvalue')
      have hself : (state.complete id node).graph.get? id = some node :=
        SchemaGraph.get?_set_self (hsound.bounded location id hid) node
      exact .inr ⟨node, inherited, hself, hcomes.mono hadvances, hversion⟩
    · rcases h.objects other id' members' hid' href' hvalue' with hmem | ⟨old, inherited', hget, hcomes', hversion'⟩
      · exact .inl ((List.mem_cons.mp hmem).resolve_left hsame)
      · have hother : id ≠ id' := by
          rintro rfl
          exact hsame (hsound.injective other location _ hid' hid href' hnone)
        have hkept : (state.complete id node).graph.get? id' = state.graph.get? id' :=
          SchemaGraph.get?_set_of_ne hother node
        exact .inr ⟨old, inherited', hkept.trans hget, hcomes'.mono hadvances, hversion'⟩

end Traced

def AllTraced (source : LinkSource) (origin : Visit) (visit : Visit → Linking SchemaId) : Prop :=
  ∀ opened place state id next, Sound source opened state → OnWay source.rules (place.location :: opened) state →
    state.Traced source.rules origin opened → ComesTo source.rules origin state place.location place.inherited →
    Inquiry.Answers visit place state id next → next.Traced source.rules origin opened

variable {visit : Visit → Linking SchemaId}

theorem traced_object (hsound : Sound source opened state) (honWay : OnWay source.rules (location :: opened) state)
    (htraced : state.Traced source.rules origin opened)
    (hcomes : ComesTo source.rules origin state location inherited) (hfresh : state.nodeAt? location = none)
    (hvalue : state.valueAt? location = some (.object members))
    (hmember : Members.find? members Keyword.reference.name = none) (hend : AllEnd source visit)
    (htraces : AllTraced source origin visit) {node : SchemaNode}
    (hrun : Linking.run ((readObject location members inherited).run visit) (state.opening location) =
      some (.ok node, next)) :
    (next.complete ⟨state.graph.size⟩ node).Traced source.rules origin opened := by
  have href : state.refAt? location = none := by simp [LinkState.refAt?, hvalue, Json.member?, hmember]
  obtain ⟨hkept, hle⟩ := hsound.opening honWay hfresh (by simp [hvalue]) href
  have hplaced : (state.opening location).nodeAt? location = some ⟨state.graph.size⟩ :=
    nodeAt?_withNode_self state location {}
  have hopening : (state.opening location).Traced source.rules origin (location :: opened) :=
    htraced.add hsound hfresh hcomes (List.subset_cons_self ..) fun _ _ => List.mem_cons_self ..
  have hcomes' : ComesTo source.rules origin (state.opening location) location inherited :=
    hcomes.mono (.of_same hle rfl)
  -- All that the object asks for is inside of it, so reading comes there in every later state.
  let Now (now : LinkState) : Prop := Kept source (location :: opened) state.underway now ∧
    (state.opening location).Advances now ∧ now.Traced source.rules origin (location :: opened)
  have hstep (place : Visit) (now : LinkState) (id : SchemaId) (after : LinkState)
      (hplace : ∃ (keyword : Keyword) (value : Json), (keyword.name, value) ∈ members ∧
        Site.Asks ⟨location, siteVersion members inherited⟩ keyword value place)
      (hnow : Now now) (hanswers : Inquiry.Answers visit place now id after) : Now after := by
    obtain ⟨hkeptNow, hadvances, htracedNow⟩ := hnow
    obtain ⟨keyword, value, hmem, steps, hsteps, rfl⟩ := hplace
    have hreached : now.Reached location := hadvances.reached location (.inl (by simp [hplaced]))
    have hvalue' := valueAt?_mono (le_trans hle hadvances.le) hvalue
    obtain ⟨⟨hkeptAfter, hleAfter⟩, _⟩ := hkeptNow.answers hend _ id hanswers
    have hsame : after.underway = now.underway := hkeptAfter.underway.trans hkeptNow.underway.symm
    refine ⟨hkeptAfter, hadvances.trans (.of_same hleAfter hsame), ?_⟩
    exact htraces _ _ now id after hkeptNow.sound (hkeptNow.onWayTo _) htracedNow
      (.inside (hcomes'.mono hadvances) hreached hvalue' hmember hmem hsteps) hanswers
  have hstart : Now (state.opening location) := ⟨hkept, .of_same (le_refl _) rfl, hopening⟩
  have hreach := Inquiry.reaches_of_run_ok hrun
  obtain ⟨hkeptLast, hadvances, htracedLast⟩ :=
    hreach.keepsAsked (asksOnly_readObject location members inherited) hstep hstart
  have hyields := hreach.yields (fun _ _ _ => True)
    (fun place _ id _ hnow hanswers => ⟨(Kept.answers hend place id hnow hanswers).1, trivial⟩)
    (fun _ _ _ _ _ _ => trivial) hkept
  exact htracedLast.complete hkeptLast.sound (hadvances.le.placed _ _ hplaced)
    (valueAt?_mono (le_trans hle hadvances.le) hvalue) (hcomes'.mono hadvances) (version_of_readObject hyields)

theorem traced_followed (hsound : Sound source opened state) (honWay : OnWay source.rules (location :: opened) state)
    (htraced : state.Traced source.rules origin opened)
    (hcomes : ComesTo source.rules origin state location inherited)
    (hhop : state.hop source.rules location = some target) (hend : AllEnd source visit)
    (htraces : AllTraced source origin visit)
    (hrun : Linking.run (visit ⟨target, state.passOn location target inherited⟩) (state.setOut location) =
      some (.ok id, next)) : (next.arrive location id).Traced source.rules origin opened := by
  obtain ⟨hstart, hway, hle⟩ := hsound.setOut honWay hhop
  have hunderway : ∀ other ∈ state.underway, (state.setOut location).Reached other :=
    fun other hmem => .inr (List.mem_cons_of_mem _ hmem)
  have hout : state.Advances (state.setOut location) := .of_underway hle hunderway
  have htracedOut : (state.setOut location).Traced source.rules origin opened :=
    htraced.of_same hsound hout htraced.drafts rfl rfl
  have hcomesOut := hcomes.mono hout
  have htarget : ComesTo source.rules origin (state.setOut location) target (state.passOn location target inherited) :=
    .reference hcomesOut (.inr (List.mem_cons_self ..)) (hop_mono hle hhop)
  have hended := hend opened ⟨target, state.passOn location target inherited⟩ (state.setOut location) hstart hway
  rw [hrun] at hended
  have hafter : next.Traced source.rules origin opened := htraces opened _ _ id next hstart hway htracedOut htarget hrun
  have hhop' : next.hop source.rules location = some target := hop_mono (le_trans hle hended.le) hhop
  obtain ⟨hshared, hle'⟩ := hended.sound.share hhop' hended.placed
  have hcomes' := hcomesOut.mono (.of_same hended.le hended.underway)
  have htracedShared := hafter.share hended.sound hcomes' hhop' hended.placed
  -- The reference is no longer on the way, but it has a node now.
  have harrived : (next.locate location id).Advances (next.arrive location id) := by
    refine .of_underway ⟨fun _ _ hd => hd, fun _ _ hk => hk, fun _ _ hp => hp⟩ fun other hmem => ?_
    by_cases hother : other = location
    · exact .inl (by simp [arrive, hother, nodeAt?, locate])
    · exact .inr ((List.mem_erase_of_ne hother).mpr hmem)
  exact htracedShared.of_same hshared harrived htracedShared.drafts rfl rfl

end LinkState

namespace Linking

open LinkState

variable {source : LinkSource} {origin : Visit} {opened : List Location} {state next : LinkState} {id : SchemaId}

/-- Every visit that ends well leaves places traced. -/
theorem visit_traced (hcanonical : source.Canonical) (rounds : Nat) (place : Visit) (hsound : Sound source opened state)
    (honWay : OnWay source.rules (place.location :: opened) state) (htraced : state.Traced source.rules origin opened)
    (hcomes : ComesTo source.rules origin state place.location place.inherited)
    (hrun : run (visit source rounds place) state = some (.ok id, next)) :
    next.Traced source.rules origin opened := by
  induction rounds generalizing place opened state id next with
  | zero => cases hrun
  | succ rounds ih =>
    obtain ⟨location, inherited⟩ := place
    have hend : AllEnd source (visit source rounds) := fun _ place _ hs hw => visit_ended hcanonical rounds place hs hw
    have htraces : AllTraced source origin (visit source rounds) :=
      fun _ place _ _ _ hs hw htraced hcomes hanswers => ih place hs hw htraced hcomes hanswers
    have hcases := visit_cases hcanonical rounds location inherited state
    rw [hrun] at hcases
    generalize houtcome : (some (.ok id, next) : Outcome SchemaId) = outcome at hcases
    cases hcases with
    | known hid =>
      cases houtcome
      exact htraced
    | fault | unresolved | circular => cases houtcome
    | boolean hfresh hvalue =>
      cases houtcome
      refine htraced.add hsound hfresh hcomes (List.Subset.refl _) fun members hobject => ?_
      rw [hvalue] at hobject
      cases hobject
    | @object members hfresh hvalue hmember =>
      obtain ⟨⟨_ | node, after⟩, hread, heq⟩ := Option.map_eq_some_iff.mp houtcome.symm
      · cases heq
      · cases heq
        exact traced_object hsound honWay htraced hcomes hfresh hvalue hmember hend htraces hread
    | shared hfresh href hloads hresolve hid =>
      cases houtcome
      have hadvances : state.Advances _ := .of_same hloads.le hloads.frame.2.2
      exact (htraced.load hsound hloads).share (hsound.load hloads) (hcomes.mono hadvances)
        (hloads.hop href hresolve) hid
    | followed hfresh href hloads hresolve hid hnew hversion =>
      subst hversion
      obtain ⟨⟨_ | other, after⟩, hvisit, heq⟩ := Option.map_eq_some_iff.mp houtcome.symm
      · cases heq
      · cases heq
        have hadvances : state.Advances _ := .of_same hloads.le hloads.frame.2.2
        have honWay' := honWay.of_same hloads.le hloads.frame.2.2 (List.Subset.refl _)
        exact traced_followed (hsound.load hloads) honWay' (htraced.load hsound hloads) (hcomes.mono hadvances)
          (hloads.hop href hresolve) hend htraces hvisit

end Linking

namespace Reader

open LinkState

variable {reader : Reader} {document : Json} {root : SchemaId} {final : LinkState}

theorem link?_traced (hcanonical : reader.source.Canonical) (h : reader.link? document = some (.ok root, final)) :
    final.Traced reader.source.rules (reader.rootVisit document) [] := by
  refine Linking.visit_traced hcanonical _ (reader.rootVisit document) (reader.sound_start document)
    (reader.onWay_start document _) ?_ .start h
  refine ⟨fun loaded hmem => ?_, fun location id hid => ?_, fun location id members hid => ?_⟩
  · rw [start, takeUp, foldl_register] at hmem
    obtain rfl := List.mem_singleton.mp hmem
    rfl
  · obtain ⟨_, _, heq⟩ := reader.start_cases document
    rw [heq] at hid
    cases hid
  · obtain ⟨_, _, heq⟩ := reader.start_cases document
    rw [heq] at hid
    cases hid

/-- At the end of a read no reference is on the way, so what reading has come to has a node. -/
theorem exists_nodeAt?_of_reached (hcanonical : reader.source.Canonical)
    (h : reader.link? document = some (.ok root, final)) {location : Location} (hreached : final.Reached location) :
    ∃ id, final.nodeAt? location = some id := by
  have hnone : final.underway = [] := by
    obtain ⟨_, _, heq⟩ := reader.start_cases document
    rw [(reader.visited_root document hcanonical h).underway, heq]
  rcases hreached with hid | hmem
  · exact Option.isSome_iff_exists.mp hid
  · rw [hnone] at hmem
    cases hmem

end Reader

end JsonSchema
