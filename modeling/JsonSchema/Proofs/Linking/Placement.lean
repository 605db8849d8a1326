import JsonSchema.Proofs.Linking.Visit

/-!
Places and their nodes. All through linking each node belongs to one schema, every reference with a node shares it with
the place that it names, and a node is what is read at its place or still empty. A visit keeps this, whether it ends
well or fails; and when it fails, the references that are on the way tell why.
-/
namespace JsonSchema

variable {rules : UriRules} {source : LinkSource} {location target : Location} {id : SchemaId}

namespace LinkState

variable {state first second : LinkState} {opened : List Location}

theorem nodeAt?_locate (state : LinkState) (location other : Location) (id : SchemaId) :
    (state.locate location id).nodeAt? other = if other = location then some id else state.nodeAt? other := by
  by_cases h : other = location
  · simp [nodeAt?, locate, h]
  · simp [nodeAt?, locate, h, List.lookup_cons, beq_false_of_ne h]

theorem nodeAt?_withNode_self (state : LinkState) (location : Location) (node : SchemaNode) :
    (state.withNode location node).nodeAt? location = some ⟨state.graph.size⟩ := by
  simp [withNode, nodeAt?_locate]

theorem nodeAt?_withNode_cases {node : SchemaNode} (h : (state.withNode location node).nodeAt? target = some id) :
    (target = location ∧ id = ⟨state.graph.size⟩) ∨ state.nodeAt? target = some id := by
  rw [withNode, nodeAt?_locate] at h
  split at h
  · exact .inl ⟨‹_›, (Option.some.inj h).symm⟩
  · exact .inr h

theorem size_withNode (state : LinkState) (location : Location) (node : SchemaNode) :
    (state.withNode location node).graph.size = state.graph.size + 1 :=
  SchemaGraph.size_add _ _

theorem get?_withNode_self (state : LinkState) (location : Location) (node : SchemaNode) :
    (state.withNode location node).graph.get? ⟨state.graph.size⟩ = some node :=
  SchemaGraph.get?_add_self _ _

theorem le_withNode (hfresh : state.nodeAt? location = none) (node : SchemaNode) :
    state ≤ state.withNode location node := by
  refine ⟨fun _ _ hd => hd, fun _ _ hk => hk, fun other id hid => ?_⟩
  have hne : other ≠ location := by
    rintro rfl
    simp [hfresh] at hid
  rwa [withNode, nodeAt?_locate, if_neg hne]

/-- A place has the node of the schema that its chain of references leads to, and so has every place on the chain. -/
inductive Settled (state : LinkState) (rules : UriRules) (id : SchemaId) : Location → Prop
  | schema {location : Location} : state.nodeAt? location = some id → (state.valueAt? location).isSome →
    state.refAt? location = none → Settled state rules id location
  | reference {location target : Location} : state.nodeAt? location = some id →
    state.hop rules location = some target → Settled state rules id target → Settled state rules id location

namespace Settled

theorem mono (hle : first ≤ second) (h : first.Settled rules id location) : second.Settled rules id location := by
  induction h with
  | schema hid hvalue href =>
    refine .schema (hle.placed _ _ hid) ?_ ((refAt?_eq hle hvalue).trans href)
    rwa [valueAt?_eq hle hvalue]
  | reference hid hhop _ ih => exact .reference (hle.placed _ _ hid) (hop_mono hle hhop) ih

theorem nodeAt? (h : state.Settled rules id location) : state.nodeAt? location = some id := by
  cases h <;> assumption

theorem isSome_valueAt? (h : state.Settled rules id location) : (state.valueAt? location).isSome := by
  cases h with
  | schema _ hvalue _ => exact hvalue
  | reference _ hhop _ =>
    obtain ⟨_, href, _⟩ := hop_eq_some_iff.mp hhop
    exact isSome_valueAt?_of_refAt? href

theorem leadsTo (h : state.Settled rules id location) :
    ∃ last, state.LeadsTo rules location last ∧ state.nodeAt? last = some id ∧ state.refAt? last = none := by
  induction h with
  | schema hid _ href => exact ⟨_, .here href, hid, href⟩
  | reference _ hhop _ ih =>
    obtain ⟨last, hlead, hlast⟩ := ih
    exact ⟨last, .next hhop hlead, hlast⟩

theorem of_hop (h : state.Settled rules id location) (hhop : state.hop rules location = some target) :
    state.Settled rules id target := by
  cases h with
  | schema _ _ href =>
    obtain ⟨reference, href', _⟩ := hop_eq_some_iff.mp hhop
    simp [href] at href'
  | reference _ hhop' hnext =>
    obtain rfl : _ = target := Option.some.inj (hhop'.symm.trans hhop)
    exact hnext

end Settled

/-- A node is what is read at a place, with the nodes that the places inside of it have. -/
def Depicts (state : LinkState) (location : Location) (node : SchemaNode) : Prop :=
  (∃ valid, state.valueAt? location = some (.bool valid) ∧ node = .boolean valid) ∨
    ∃ members inherited, state.valueAt? location = some (.object members) ∧
      (readObject location members inherited).Yields (fun visit id => state.nodeAt? visit.location = some id) node

theorem Depicts.mono {node : SchemaNode} (hle : first ≤ second) (h : first.Depicts location node) :
    second.Depicts location node := by
  rcases h with ⟨valid, hvalue, rfl⟩ | ⟨members, inherited, hvalue, hyields⟩
  · exact .inl ⟨valid, valueAt?_mono hle hvalue, rfl⟩
  · exact .inr ⟨members, inherited, valueAt?_mono hle hvalue, hyields.mono fun _ _ hid => hle.placed _ _ hid⟩

/-- The documents after the first one are of the source, each under a key of its own. -/
def Loaded (source : LinkSource) (state : LinkState) : Prop :=
  state.documents ≠ [] ∧ ∃ keys : List String, keys.Nodup ∧
    List.Forall₂ (fun key document => source.documents.find? source.rules key = some document.root ∧
      source.rules.key key = key ∧ (Members.find? state.byKey key).isSome) keys (state.documents.drop 1)

theorem Loads.loaded (h : Loads source first second) (hloaded : first.Loaded source) : second.Loaded source := by
  rcases h with rfl | ⟨address, root, hroot, hnew, hself, rfl⟩
  · exact hloaded
  · obtain ⟨hne, keys, hnodup, hall⟩ := hloaded
    obtain ⟨document, names, rfl, hmem, _, heq, hkeys⟩ := takeUp_cases first source.rules (some address) root
    have hdocuments : (first.takeUp source.rules (some address) document.root).2.documents =
        first.documents ++ [document] := by rw [heq]
    have hgrow {key : String} (hkey : (Members.find? first.byKey key).isSome) :
        (Members.find? (first.takeUp source.rules (some address) document.root).2.byKey key).isSome := by
      rw [hkeys, Option.isSome_or, hkey, Bool.true_or]
    refine ⟨by simp [hdocuments], keys ++ [address], ?_, ?_⟩
    · refine List.nodup_append.mpr ⟨hnodup, by simp, ?_⟩
      rintro key hkey _ hother rfl
      obtain rfl : key = address := by simpa using hother
      obtain ⟨index, hlt, rfl⟩ := List.mem_iff_getElem.mp hkey
      have hentry := hall.get hlt (hall.length_eq ▸ hlt)
      simp [List.get_eq_getElem, hnew] at hentry
    · rw [hdocuments, List.drop_append_of_le_length (List.length_pos_of_ne_nil hne)]
      refine List.rel_append (hall.imp ?_) (.cons ⟨hroot, hself, ?_⟩ .nil)
      · rintro key other ⟨hfind, hself', hkey⟩
        exact ⟨hfind, hself', hgrow hkey⟩
      · have hname : address ∈ names := by simpa [hself] using hmem address rfl
        simp [hkeys, hnew, hname]

/-- What holds all through linking, with the schema objects that are being read. -/
structure Sound (source : LinkSource) (opened : List Location) (state : LinkState) : Prop where
  loaded : state.Loaded source
  settled : ∀ location id, state.nodeAt? location = some id → state.Settled source.rules id location
  bounded : ∀ location id, state.nodeAt? location = some id → id.index < state.graph.size
  /-- Two schemas do not share a node. -/
  injective : ∀ location other id, state.nodeAt? location = some id → state.nodeAt? other = some id →
    state.refAt? location = none → state.refAt? other = none → location = other
  /-- Every node is the node of a schema. -/
  surjective : ∀ index < state.graph.size, ∃ location,
    state.nodeAt? location = some ⟨index⟩ ∧ state.refAt? location = none
  /-- Nodes of objects that are being read are still empty. -/
  empty : ∀ location ∈ opened, state.refAt? location = none ∧
    ∃ id, state.nodeAt? location = some id ∧ state.graph.get? id = some {}
  depicted : ∀ location id, state.nodeAt? location = some id → state.refAt? location = none →
    location ∈ opened ∨ ∃ node, state.graph.get? id = some node ∧ state.Depicts location node

namespace Sound

theorem exists_depicted (h : Sound source [] state) (hid : state.nodeAt? location = some id)
    (hnone : state.refAt? location = none) : ∃ node, state.graph.get? id = some node ∧ state.Depicts location node :=
  (h.depicted location id hid hnone).resolve_left List.not_mem_nil

/-- Then every node of the graph is what is read at a place. -/
theorem exists_place (h : Sound source [] state) {index : Nat} (hlt : index < state.graph.size) :
    ∃ location node, state.nodeAt? location = some ⟨index⟩ ∧ state.refAt? location = none ∧
      state.graph.get? ⟨index⟩ = some node ∧ state.Depicts location node := by
  obtain ⟨location, hid, hnone⟩ := h.surjective index hlt
  obtain ⟨node, hget, hdepicts⟩ := h.exists_depicted hid hnone
  exact ⟨location, node, hid, hnone, hget, hdepicts⟩

theorem exists_depicted_of_get? (h : Sound source [] state) {node : SchemaNode}
    (hget : state.graph.get? id = some node) : ∃ location, state.Depicts location node := by
  have hlt : id.index < state.graph.size := SchemaGraph.get?_isSome_iff.mp (by simp [hget])
  obtain ⟨location, other, _, _, hother, hdepicts⟩ := h.exists_place hlt
  obtain rfl : node = other := Option.some.inj (hget.symm.trans hother)
  exact ⟨location, hdepicts⟩

theorem refAt?_eq (h : Sound source opened first) (hle : first ≤ second) (hid : first.nodeAt? location = some id) :
    second.refAt? location = first.refAt? location :=
  LinkState.refAt?_eq hle (h.settled location id hid).isSome_valueAt?

theorem of_same (h : Sound source opened first) (hle : first ≤ second) (hloaded : second.Loaded source)
    (hplaced : second.placed = first.placed) (hgraph : second.graph = first.graph) : Sound source opened second := by
  have hnode (location : Location) : second.nodeAt? location = first.nodeAt? location := by
    rw [nodeAt?, nodeAt?, hplaced]
  have href {location : Location} {id : SchemaId} (hid : first.nodeAt? location = some id) :
      second.refAt? location = first.refAt? location := h.refAt?_eq hle hid
  refine ⟨hloaded, ?_, ?_, ?_, ?_, ?_, ?_⟩
  · intro location id hid
    exact (h.settled location id (hnode location ▸ hid)).mono hle
  · intro location id hid
    exact hgraph ▸ h.bounded location id (hnode location ▸ hid)
  · intro location other id hid hid' hnone hnone'
    rw [hnode] at hid hid'
    exact h.injective location other id hid hid' (href hid ▸ hnone) (href hid' ▸ hnone')
  · intro index hlt
    obtain ⟨location, hid, hnone⟩ := h.surjective index (hgraph ▸ hlt)
    exact ⟨location, (hnode location).trans hid, (href hid).trans hnone⟩
  · intro location hmem
    obtain ⟨hnone, id, hid, hempty⟩ := h.empty location hmem
    exact ⟨(href hid).trans hnone, id, (hnode location).trans hid, hgraph ▸ hempty⟩
  · intro location id hid hnone
    rw [hnode] at hid
    refine (h.depicted location id hid (href hid ▸ hnone)).imp_right ?_
    rintro ⟨node, hget, hdepicts⟩
    exact ⟨node, hgraph ▸ hget, hdepicts.mono hle⟩

theorem load (h : Sound source opened first) (hloads : Loads source first second) : Sound source opened second :=
  h.of_same hloads.le (hloads.loaded h.loaded) hloads.frame.2.1 hloads.frame.1

theorem get?_withNode_of_nodeAt? (h : Sound source opened state) {other : Location}
    (hid : state.nodeAt? other = some id) (node : SchemaNode) : (state.withNode location node).graph.get? id = state.graph.get? id :=
  SchemaGraph.get?_add_of_lt (h.bounded other id hid) node

theorem injective_withNode (h : Sound source opened state) {node : SchemaNode}
    (hle : state ≤ state.withNode location node) {first second : Location}
    (hfirst : (state.withNode location node).nodeAt? first = some id)
    (hsecond : (state.withNode location node).nodeAt? second = some id)
    (hnone : (state.withNode location node).refAt? first = none)
    (hnone' : (state.withNode location node).refAt? second = none) : first = second := by
  rcases nodeAt?_withNode_cases hfirst with ⟨rfl, rfl⟩ | hfirst' <;>
    rcases nodeAt?_withNode_cases hsecond with ⟨rfl, hid⟩ | hsecond'
  · rfl
  · exact absurd (h.bounded second _ hsecond') (Nat.lt_irrefl _)
  · exact absurd (hid ▸ h.bounded first id hfirst') (Nat.lt_irrefl _)
  · exact h.injective first second id hfirst' hsecond' (h.refAt?_eq hle hfirst' ▸ hnone)
      (h.refAt?_eq hle hsecond' ▸ hnone')

/-- A schema gets a new node, which is what is read there or is empty for the time being. -/
theorem add (h : Sound source opened state) {node : SchemaNode} {more : List Location}
    (hfresh : state.nodeAt? location = none) (hvalue : (state.valueAt? location).isSome)
    (href : state.refAt? location = none)
    (hmore : (more = opened ∧ (state.withNode location node).Depicts location node) ∨
      (more = location :: opened ∧ node = {})) :
    Sound source more (state.withNode location node) ∧ state ≤ state.withNode location node := by
  have hle := le_withNode hfresh node
  have hself : (state.withNode location node).refAt? location = none := (LinkState.refAt?_eq hle hvalue).trans href
  refine ⟨⟨h.loaded, ?_, ?_, fun _ _ _ => h.injective_withNode hle, ?_, ?_, ?_⟩, hle⟩
  · intro other id hid
    rcases nodeAt?_withNode_cases hid with ⟨rfl, _⟩ | hid'
    · exact .schema hid (by rwa [valueAt?_eq hle hvalue]) hself
    · exact (h.settled other id hid').mono hle
  · intro other id hid
    rw [size_withNode]
    rcases nodeAt?_withNode_cases hid with ⟨_, rfl⟩ | hid'
    · exact Nat.lt_succ_self _
    · exact Nat.lt_succ_of_lt (h.bounded other id hid')
  · intro index hlt
    rw [size_withNode] at hlt
    rcases Nat.lt_succ_iff_lt_or_eq.mp hlt with hlt | rfl
    · obtain ⟨other, hid, hnone⟩ := h.surjective index hlt
      exact ⟨other, hle.placed _ _ hid, (h.refAt?_eq hle hid).trans hnone⟩
    · exact ⟨location, nodeAt?_withNode_self state location node, hself⟩
  · intro other hmem
    have hmem' : other ∈ opened ∨ (other = location ∧ node = {}) := by
      rcases hmore with ⟨rfl, _⟩ | ⟨rfl, hempty⟩
      · exact .inl hmem
      · exact (List.mem_cons.mp hmem).elim (fun heq => .inr ⟨heq, hempty⟩) .inl
    rcases hmem' with hmem' | ⟨rfl, rfl⟩
    · obtain ⟨hnone, id, hid, hempty⟩ := h.empty other hmem'
      refine ⟨(h.refAt?_eq hle hid).trans hnone, id, hle.placed _ _ hid, ?_⟩
      exact (h.get?_withNode_of_nodeAt? hid node).trans hempty
    · exact ⟨hself, _, nodeAt?_withNode_self state other {}, get?_withNode_self state other {}⟩
  · intro other id hid hnone
    rcases nodeAt?_withNode_cases hid with ⟨rfl, rfl⟩ | hid'
    · rcases hmore with ⟨_, hdepicts⟩ | ⟨rfl, _⟩
      · exact .inr ⟨node, get?_withNode_self state other node, hdepicts⟩
      · exact .inl (List.mem_cons_self ..)
    · rcases h.depicted other id hid' (h.refAt?_eq hle hid' ▸ hnone) with hmem | ⟨old, hold, hdepicts⟩
      · refine .inl ?_
        rcases hmore with ⟨rfl, _⟩ | ⟨rfl, _⟩
        · exact hmem
        · exact List.mem_cons_of_mem _ hmem
      · exact .inr ⟨old, (h.get?_withNode_of_nodeAt? hid' node).trans hold, hdepicts.mono hle⟩

theorem share (h : Sound source opened state) (hhop : state.hop source.rules location = some target)
    (htarget : state.nodeAt? target = some id) :
    Sound source opened (state.locate location id) ∧ state ≤ state.locate location id := by
  obtain ⟨reference, href, _⟩ := hop_eq_some_iff.mp hhop
  have hle : state ≤ state.locate location id := by
    refine ⟨fun _ _ hd => hd, fun _ _ hk => hk, fun other id' hid => ?_⟩
    rw [nodeAt?_locate]
    split
    · subst other
      rw [← htarget, ((h.settled location id' hid).of_hop hhop).nodeAt?]
    · exact hid
  -- A schema with a node had it before.
  have hcases {other : Location} {id' : SchemaId} (hid : (state.locate location id).nodeAt? other = some id')
      (hnone : (state.locate location id).refAt? other = none) :
      state.nodeAt? other = some id' ∧ state.refAt? other = none := by
    rw [nodeAt?_locate] at hid
    split at hid
    · subst other
      exact absurd (href.symm.trans hnone) (by simp)
    · exact ⟨hid, hnone⟩
  refine ⟨⟨h.loaded, ?_, ?_, ?_, ?_, ?_, ?_⟩, hle⟩
  · intro other id' hid
    have hid' := hid
    rw [nodeAt?_locate] at hid'
    split at hid'
    · obtain rfl := Option.some.inj hid'
      subst other
      exact .reference hid (hop_mono hle hhop) ((h.settled target id htarget).mono hle)
    · exact (h.settled other id' hid').mono hle
  · intro other id' hid
    rw [nodeAt?_locate] at hid
    split at hid
    · exact Option.some.inj hid ▸ h.bounded target id htarget
    · exact h.bounded other id' hid
  · intro first second id' hfirst hsecond hnone hnone'
    obtain ⟨hfirst', href'⟩ := hcases hfirst hnone
    obtain ⟨hsecond', href''⟩ := hcases hsecond hnone'
    exact h.injective first second id' hfirst' hsecond' href' href''
  · intro index hlt
    obtain ⟨other, hid, hnone⟩ := h.surjective index hlt
    exact ⟨other, hle.placed _ _ hid, hnone⟩
  · intro other hmem
    obtain ⟨hnone, id', hid, hempty⟩ := h.empty other hmem
    exact ⟨hnone, id', hle.placed _ _ hid, hempty⟩
  · intro other id' hid hnone
    obtain ⟨hid', hnone'⟩ := hcases hid hnone
    refine (h.depicted other id' hid' hnone').imp_right ?_
    rintro ⟨node, hget, hdepicts⟩
    exact ⟨node, hget, hdepicts.mono hle⟩

theorem complete (h : Sound source (location :: opened) state) (hnew : location ∉ opened)
    (hid : state.nodeAt? location = some id) {node : SchemaNode} (hdepicts : state.Depicts location node) :
    Sound source opened (state.complete id node) ∧ state ≤ state.complete id node := by
  have hle : state ≤ state.complete id node := ⟨fun _ _ hd => hd, fun _ _ hk => hk, fun _ _ hp => hp⟩
  have hnone : state.refAt? location = none := (h.empty location (by simp)).1
  have hself : (state.complete id node).graph.get? id = some node :=
    SchemaGraph.get?_set_self (h.bounded location id hid) node
  have hother {other : Location} {id' : SchemaId} (hid' : state.nodeAt? other = some id')
      (hnone' : state.refAt? other = none) (hne : other ≠ location) :
      (state.complete id node).graph.get? id' = state.graph.get? id' := by
    refine SchemaGraph.get?_set_of_ne ?_ node
    rintro rfl
    exact hne (h.injective other location id hid' hid hnone' hnone)
  refine ⟨⟨h.loaded, ?_, ?_, h.injective, ?_, ?_, ?_⟩, hle⟩
  · exact fun other id' hid' => (h.settled other id' hid').mono hle
  · intro other id' hid'
    rw [LinkState.complete, SchemaGraph.size_set]
    exact h.bounded other id' hid'
  · intro index hlt
    rw [LinkState.complete, SchemaGraph.size_set] at hlt
    exact h.surjective index hlt
  · intro other hmem
    obtain ⟨hnone', id', hid', hempty⟩ := h.empty other (List.mem_cons_of_mem _ hmem)
    have hne : other ≠ location := fun heq => hnew (heq ▸ hmem)
    exact ⟨hnone', id', hid', (hother hid' hnone' hne).trans hempty⟩
  · intro other id' hid' hnone'
    by_cases hne : other = location
    · subst other
      obtain rfl := Option.some.inj (hid.symm.trans hid')
      exact .inr ⟨node, hself, hdepicts.mono hle⟩
    · rcases h.depicted other id' hid' hnone' with hmem | ⟨old, hold, hdepicts'⟩
      · exact .inl ((List.mem_cons.mp hmem).resolve_left hne)
      · exact .inr ⟨old, (hother hid' hnone' hne).trans hold, hdepicts'.mono hle⟩

end Sound

/-- Each reference on the way names another one, or one of some places. -/
def OnWay (rules : UriRules) (ends : List Location) (state : LinkState) : Prop :=
  ∀ location ∈ state.underway, ∃ target,
    state.hop rules location = some target ∧ (target ∈ state.underway ∨ target ∈ ends)

theorem OnWay.mono {ends more : List Location} (h : OnWay rules ends first) (hle : first ≤ second)
    (hunderway : first.underway ⊆ second.underway)
    (hmem : ∀ location ∈ second.underway, location ∈ first.underway ∨ ∃ target,
      second.hop rules location = some target ∧ (target ∈ second.underway ∨ target ∈ more))
    (hends : ∀ location ∈ ends, location ∈ second.underway ∨ location ∈ more) : OnWay rules more second := by
  intro location hlocation
  rcases hmem location hlocation with hold | hnew
  · obtain ⟨target, hhop, htarget⟩ := h location hold
    refine ⟨target, hop_mono hle hhop, ?_⟩
    rcases htarget with htarget | htarget
    · exact .inl (hunderway htarget)
    · exact hends target htarget
  · exact hnew

theorem OnWay.of_same {ends more : List Location} (h : OnWay rules ends first) (hle : first ≤ second)
    (hunderway : second.underway = first.underway) (hends : ends ⊆ more) : OnWay rules more second :=
  h.mono hle (by simp [hunderway]) (fun location hmem => .inl (hunderway ▸ hmem)) fun _ hmem => .inr (hends hmem)

theorem not_endless_of_refAt? (h : state.refAt? location = none) : ¬state.Endless rules location :=
  (LeadsTo.here h).not_endless

/-- A visit has ended well: the place has a node, and the same references are on the way as before. -/
structure Visited (source : LinkSource) (opened : List Location) (state : LinkState) (location : Location)
    (id : SchemaId) (next : LinkState) : Prop where
  sound : Sound source opened next
  le : state ≤ next
  underway : next.underway = state.underway
  placed : next.nodeAt? location = some id

/-- A reference was met again while it was being followed, before the place that it names had a node. -/
structure MetAgain (source : LinkSource) (opened : List Location) (final : LinkState) (reference : String)
    (location target : Location) : Prop where
  refAt? : final.refAt? location = some reference
  underway : location ∈ final.underway
  hop : final.hop source.rules location = some target
  unplaced : final.nodeAt? target = none
  onWay : OnWay source.rules opened final

/-- A visit has failed. All that was on the way still is; if a reference was met again it is one of them, and if not
none of those that were added has an endless chain. -/
structure Failed (source : LinkSource) (state : LinkState) (location : Location) (error : ReadError)
    (final : LinkState) : Prop where
  le : state ≤ final
  circular : ∃ opened, Sound source opened final ∧ ∀ reference pointer,
    error = .circularReference reference pointer →
      ∃ again target, again.pointer = pointer ∧ MetAgain source opened final reference again target
  plain : error.IsPlain → ¬final.Endless source.rules location ∧
    ∀ other ∈ final.underway, other ∈ state.underway ∨ ¬final.Endless source.rules other

def Ended (source : LinkSource) (opened : List Location) (state : LinkState) (location : Location) :
    Linking.Outcome SchemaId → Prop
  | none => True
  | some (.ok id, next) => Visited source opened state location id next
  | some (.error error, final) => Failed source state location error final

variable {visit : Visit → Linking SchemaId} {next : LinkState}

theorem Failed.of_plain {error : ReadError} (hsound : Sound source opened next) (hle : state ≤ next)
    (hunderway : next.underway = state.underway) (hplain : error.IsPlain)
    (hend : ¬next.Endless source.rules location) : Failed source state location error next where
  le := hle
  circular := ⟨opened, hsound, fun reference pointer heq => absurd heq (hplain reference pointer)⟩
  plain _ := ⟨hend, fun _ hmem => .inl (hunderway ▸ hmem)⟩

def AllEnd (source : LinkSource) (visit : Visit → Linking SchemaId) : Prop :=
  ∀ opened place state, Sound source opened state → OnWay source.rules (place.location :: opened) state →
    Ended source opened state place.location (Linking.run (visit place) state)

/-- What holds while an object is read: the references on the way are the same all the time. -/
structure Kept (source : LinkSource) (opened underway : List Location) (now : LinkState) : Prop where
  sound : Sound source opened now
  onWay : OnWay source.rules opened now
  underway : now.underway = underway

theorem Kept.onWayTo {underway : List Location} (h : Kept source opened underway state) (location : Location) :
    OnWay source.rules (location :: opened) state :=
  h.onWay.of_same (le_refl _) rfl (List.subset_cons_self _ _)

theorem Kept.answers {underway : List Location} (hend : AllEnd source visit) (place : Visit) (id : SchemaId)
    (h : Kept source opened underway state) (hrun : Inquiry.Answers visit place state id next) :
    (Kept source opened underway next ∧ state ≤ next) ∧ next.nodeAt? place.location = some id := by
  have hended := hend opened place state h.sound (h.onWayTo place.location)
  rw [hrun] at hended
  refine ⟨⟨⟨hended.sound, ?_, hended.underway.trans h.underway⟩, hended.le⟩, hended.placed⟩
  exact h.onWay.of_same hended.le hended.underway (List.Subset.refl _)

theorem Kept.reaches {underway : List Location} {α : Type} {x rest : Reading α} (hend : AllEnd source visit)
    (h : Kept source opened underway state) (hreach : Inquiry.Reaches (Inquiry.Answers visit) x state rest next) :
    Kept source opened underway next ∧ state ≤ next :=
  hreach.keeps (fun place _ id _ hnow hrun => (hnow.answers hend place id hrun).1) h

theorem Sound.opening (hsound : Sound source opened state) (honWay : OnWay source.rules (location :: opened) state)
    (hfresh : state.nodeAt? location = none) (hvalue : (state.valueAt? location).isSome)
    (href : state.refAt? location = none) :
    Kept source (location :: opened) state.underway (state.opening location) ∧ state ≤ state.opening location := by
  obtain ⟨hopening, hle⟩ : Sound source (location :: opened) (state.opening location) ∧
      state ≤ state.opening location := hsound.add hfresh hvalue href (.inr ⟨rfl, rfl⟩)
  exact ⟨⟨hopening, honWay.of_same hle rfl (List.Subset.refl _), rfl⟩, hle⟩

theorem Sound.setOut (hsound : Sound source opened state) (honWay : OnWay source.rules (location :: opened) state)
    (hhop : state.hop source.rules location = some target) :
    Sound source opened (state.setOut location) ∧ OnWay source.rules (target :: opened) (state.setOut location) ∧
      state ≤ state.setOut location := by
  have hle : state ≤ state.setOut location := ⟨fun _ _ hd => hd, fun _ _ hk => hk, fun _ _ hp => hp⟩
  refine ⟨hsound.of_same hle hsound.loaded rfl rfl, honWay.mono hle (List.subset_cons_self _ _) ?_ ?_, hle⟩
  · intro other hmem
    rcases List.mem_cons.mp hmem with rfl | hmem
    · exact .inr ⟨target, hop_mono hle hhop, .inr (by simp)⟩
    · exact .inl hmem
  · intro other hmem
    rcases List.mem_cons.mp hmem with rfl | hmem
    · exact .inl (by simp [LinkState.setOut])
    · exact .inr (List.mem_cons_of_mem _ hmem)

theorem ended_object (hsound : Sound source opened state) (honWay : OnWay source.rules (location :: opened) state)
    {members : Members Json} {inherited : Option String} (hfresh : state.nodeAt? location = none)
    (hvalue : state.valueAt? location = some (.object members)) (href : state.refAt? location = none)
    (hend : AllEnd source visit) :
    Ended source opened state location
      (Linking.Outcome.andThen
        (Linking.run ((readObject location members inherited).run visit) (state.opening location))
        fun node next => (⟨state.graph.size⟩, next.complete ⟨state.graph.size⟩ node)) := by
  obtain ⟨hkept, hle⟩ := hsound.opening honWay hfresh (by simp [hvalue]) href
  have hplaced : (state.opening location).nodeAt? location = some ⟨state.graph.size⟩ :=
    nodeAt?_withNode_self state location {}
  cases hrun : Linking.run ((readObject location members inherited).run visit) (state.opening location) with
  | none => trivial
  | some outcome =>
    obtain ⟨error | node, final⟩ := outcome
    · obtain ⟨rest, last, hreach, hrest⟩ := Inquiry.reaches_of_run_error hrun
      obtain ⟨hlast, hle'⟩ := hkept.reaches hend hreach
      have hself {final : LinkState} (hfinal : state.opening location ≤ final) :
          ¬final.Endless source.rules location :=
        not_endless_of_refAt? ((hkept.sound.refAt?_eq hfinal hplaced).trans (hkept.sound.empty location (by simp)).1)
      rcases hrest with ⟨rfl, rfl⟩ | ⟨place, _, rfl, hfail⟩
      · have hown := hreach.failsOnly (failsOnly_readObject location members inherited)
        exact .of_plain hlast.sound (le_trans hle hle') hlast.underway hown.plain (hself hle')
      · have hended := hend _ place last hlast.sound (hlast.onWayTo place.location)
        rw [hfail] at hended
        refine ⟨le_trans hle (le_trans hle' hended.le), hended.circular, fun hplain => ?_⟩
        refine ⟨hself (le_trans hle' hended.le), fun other hmem => ?_⟩
        exact hlast.underway ▸ (hended.plain hplain).2 other hmem
    · have hreach := Inquiry.reaches_of_run_ok hrun
      obtain ⟨hlast, hle'⟩ := hkept.reaches hend hreach
      have hyields := hreach.yields (fun now place id => now.nodeAt? place.location = some id)
        (fun place _ id _ hnow hrun => hnow.answers hend place id hrun)
        (fun _ _ _ _ hle hid => hle.placed _ _ hid) hkept
      have hdepicts : final.Depicts location node :=
        .inr ⟨members, inherited, valueAt?_mono (le_trans hle hle') hvalue, hyields⟩
      have hnew : location ∉ opened := by
        intro hmem
        obtain ⟨_, id, hid, _⟩ := hsound.empty location hmem
        simp [hfresh] at hid
      obtain ⟨hcomplete, hle''⟩ := hlast.sound.complete hnew (hle'.placed _ _ hplaced) hdepicts
      exact ⟨hcomplete, le_trans hle (le_trans hle' hle''), hlast.underway, hle''.placed _ _ (hle'.placed _ _ hplaced)⟩

theorem ended_followed (hsound : Sound source opened next) (honWay : OnWay source.rules (location :: opened) next)
    {version : Option String} (hhop : next.hop source.rules location = some target)
    (hend : AllEnd source visit) :
    Ended source opened next location
      (Linking.Outcome.andThen (Linking.run (visit ⟨target, version⟩) (next.setOut location))
        fun id after => (id, after.arrive location id)) := by
  obtain ⟨hstart, hway, hle⟩ := hsound.setOut honWay hhop
  have hended := hend opened ⟨target, version⟩ (next.setOut location) hstart hway
  cases hrun : Linking.run (visit ⟨target, version⟩) (next.setOut location) with
  | none => trivial
  | some outcome =>
    rw [hrun] at hended
    obtain ⟨error | id, final⟩ := outcome
    · have hhop' : final.hop source.rules location = some target := hop_mono (le_trans hle hended.le) hhop
      refine ⟨le_trans hle hended.le, hended.circular, fun hplain => ?_⟩
      obtain ⟨htarget, hothers⟩ := hended.plain hplain
      have hself : ¬final.Endless source.rules location := fun hendless => htarget (hendless.next hhop')
      refine ⟨hself, fun other hmem => ?_⟩
      rcases hothers other hmem with hmem' | hother
      · rcases List.mem_cons.mp hmem' with rfl | hmem'
        · exact .inr hself
        · exact .inl hmem'
      · exact .inr hother
    · obtain ⟨hshared, hle'⟩ := hended.sound.share (hop_mono (le_trans hle hended.le) hhop) hended.placed
      have hle'' : final.locate location id ≤ final.arrive location id :=
        ⟨fun _ _ hd => hd, fun _ _ hk => hk, fun _ _ hp => hp⟩
      refine ⟨hshared.of_same hle'' hshared.loaded rfl rfl, ?_, ?_, ?_⟩
      · exact le_trans (le_trans hle hended.le) (le_trans hle' hle'')
      · simp [arrive, hended.underway, LinkState.setOut]
      · exact hle''.placed _ _ (by simp [nodeAt?_locate])

theorem Failed.of_loads {error : ReadError} {final : LinkState} (hloads : Loads source state next)
    (h : Failed source next location error final) : Failed source state location error final where
  le := le_trans hloads.le h.le
  circular := h.circular
  plain := hloads.frame.2.2 ▸ h.plain

theorem Visited.of_loads {final : LinkState} (hloads : Loads source state next)
    (h : Visited source opened next location id final) : Visited source opened state location id final where
  sound := h.sound
  le := le_trans hloads.le h.le
  underway := h.underway.trans hloads.frame.2.2
  placed := h.placed

theorem Ended.of_loads {outcome : Linking.Outcome SchemaId} (hloads : Loads source state next)
    (h : Ended source opened next location outcome) : Ended source opened state location outcome := by
  rcases outcome with _ | ⟨_ | _, _⟩
  · trivial
  · exact Failed.of_loads hloads h
  · exact Visited.of_loads hloads h

end LinkState

namespace Linking

open LinkState

variable {opened : List Location} {state : LinkState}

/-- Every visit that ends keeps what holds all through linking, and gives the place a node or fails for a reason. -/
theorem visit_ended (hcanonical : source.Canonical) (rounds : Nat) (place : Visit) (hsound : Sound source opened state)
    (honWay : OnWay source.rules (place.location :: opened) state) :
    Ended source opened state place.location (run (visit source rounds place) state) := by
  induction rounds generalizing place opened state with
  | zero => trivial
  | succ rounds ih =>
    obtain ⟨location, inherited⟩ := place
    have hend : AllEnd source (visit source rounds) := fun _ place _ hs hw => ih place hs hw
    have hcases := visit_cases hcanonical rounds location inherited state
    generalize run (visit source (rounds + 1) ⟨location, inherited⟩) state = outcome at hcases ⊢
    cases hcases with
    | known hid => exact ⟨hsound, le_refl _, rfl, hid⟩
    | fault hfresh href hplain => exact .of_plain hsound (le_refl _) rfl hplain (not_endless_of_refAt? href)
    | boolean hfresh hvalue =>
      have href : state.refAt? location = none := by simp [refAt?, hvalue, Json.member?]
      obtain ⟨hadd, hle⟩ := hsound.add hfresh (by simp [hvalue]) href (.inl ⟨rfl, .inl ⟨_, hvalue, rfl⟩⟩)
      exact ⟨hadd, hle, rfl, nodeAt?_withNode_self state location _⟩
    | object hfresh hvalue hmember =>
      have href : state.refAt? location = none := by simp [refAt?, hvalue, Json.member?, hmember]
      exact ended_object hsound honWay hfresh hvalue href hend
    | unresolved hfresh href hloads hresolve hplain =>
      refine .of_plain (hsound.load hloads) hloads.le hloads.frame.2.2 hplain fun hendless => ?_
      obtain ⟨target, hhop⟩ := hendless.exists_hop
      simp [hop, refAt?_mono hloads.le href, hresolve] at hhop
    | shared hfresh href hloads hresolve hid =>
      obtain ⟨hshared, hle⟩ := (hsound.load hloads).share (hloads.hop href hresolve) hid
      exact ⟨hshared, le_trans hloads.le hle, hloads.frame.2.2, by simp [nodeAt?_locate]⟩
    | @circular reference next target hfresh href hloads hresolve hid hunderway =>
      have honWay' : OnWay source.rules opened next := by
        have hsame := hloads.frame.2.2
        refine honWay.mono hloads.le (by simp [hsame]) (fun other hmem => .inl (hsame ▸ hmem)) fun other hmem => ?_
        rcases List.mem_cons.mp hmem with rfl | hmem
        · exact .inl hunderway
        · exact .inr hmem
      refine ⟨hloads.le, ⟨opened, hsound.load hloads, ?_⟩, fun hplain => absurd rfl (hplain _ _)⟩
      rintro _ _ ⟨⟩
      exact ⟨location, target, rfl, refAt?_mono hloads.le href, hunderway, hloads.hop href hresolve, hid, honWay'⟩
    | followed hfresh href hloads hresolve hid hnew =>
      have honWay' := honWay.of_same hloads.le hloads.frame.2.2 (List.Subset.refl _)
      exact .of_loads hloads (ended_followed (hsound.load hloads) honWay' (hloads.hop href hresolve) hend)

end Linking

end JsonSchema
