import JsonSchema.Proofs.Linking.Agreement

/-!
Reading the members of an object in another order. Where no two members write the same fields, the last word on a field
is the only one, so both orders leave nodes that say the same.
-/
namespace JsonSchema

/-- No member of an object stands beside one that is another name for it. -/
structure Unaliased (members : Members Json) : Prop where
  bases : Keyword.allOf.name ∈ Members.names members → Keyword.extending.name ∉ Members.names members
  divisors : Keyword.multipleOf.name ∈ Members.names members → Keyword.divisibleBy.name ∉ Members.names members

def earlyDraft? (version : Option String) : Option Draft := (version.bind Draft.ofUri?).filter Draft.strictIntegers

theorem draft3_of_earlyDraft? {version version' : Option String} (h : earlyDraft? version = earlyDraft? version')
    (hdraft : version.bind Draft.ofUri? = some .draft3) : version'.bind Draft.ofUri? = some .draft3 := by
  unfold earlyDraft? at h
  rw [hdraft] at h
  exact (Option.filter_eq_some_iff.mp h.symm).1

theorem SchemaNode.strictIntegers_eq (node : SchemaNode) : node.strictIntegers = (earlyDraft? node.version).isSome := by
  unfold strictIntegers draft earlyDraft?
  cases node.version.bind Draft.ofUri? with
  | none => rfl
  | some draft => cases draft <;> rfl

namespace UnfinishedNode

open Inquiry

section Writers

variable {fits : Visit → SchemaId → Prop} {site : Site} {partly last : UnfinishedNode} {members : Members Json}
  {keyword writer : Keyword}

/-- Without aliases, all fields but the list of what is required have one writer. -/
theorem eq_of_writes (h : Unaliased members) (hrequired : keyword ≠ .required) {other : Keyword}
    (hwriter : Writes writer keyword) (hother : Writes other keyword) (hname : writer.name ∈ Members.names members)
    (hname' : other.name ∈ Members.names members) : writer = other := by
  have hshares {writer : Keyword} (hshares : Shares writer keyword) :
      (writer = .extending ∧ keyword = .allOf) ∨ writer = .divisibleBy ∧ keyword = .multipleOf := by
    unfold Shares at hshares
    split at hshares
    · exact .inl ⟨rfl, rfl⟩
    · exact .inr ⟨rfl, rfl⟩
    · exact absurd rfl hrequired
    · cases hshares
  rcases hwriter with rfl | hwriter <;> rcases hother with rfl | hother
  · rfl
  · rcases hshares hother with ⟨rfl, rfl⟩ | ⟨rfl, rfl⟩
    · exact absurd hname' (h.bases hname)
    · exact absurd hname' (h.divisors hname)
  · rcases hshares hwriter with ⟨rfl, rfl⟩ | ⟨rfl, rfl⟩
    · exact absurd hname (h.bases hname')
    · exact absurd hname (h.divisors hname')
  · rcases hshares hwriter with ⟨rfl, rfl⟩ | ⟨rfl, rfl⟩ <;> rcases hshares hother with ⟨rfl, heq⟩ | ⟨rfl, heq⟩ <;>
      first | rfl | cases heq

theorem facet_foldlM_of_unwritten (h : (members.foldlM (readMember site) partly).Yields fits last)
    (hnone : ∀ writer value, (writer.name, value) ∈ members → ¬Writes writer keyword) :
    last.facet keyword = partly.facet keyword :=
  facet_foldlM h keyword (motive := (· = partly.facet keyword)) rfl fun writer value hmem hwriter =>
    absurd hwriter (hnone writer value hmem)

theorem exists_read_of_last {before after : Members Json} {value : Json}
    (h : ((before ++ (writer.name, value) :: after).foldlM (readMember site) partly).Yields fits last)
    (hafter : ∀ other value, (other.name, value) ∈ after → ¬Writes other keyword) :
    ∃ mid next : UnfinishedNode, (before.foldlM (readMember site) partly).Yields fits mid ∧
      (mid.read site writer value).Yields fits next ∧ last.facet keyword = next.facet keyword := by
  rw [List.foldlM_append] at h
  obtain ⟨mid, hbefore, h⟩ := yields_bind.mp h
  rw [List.foldlM_cons] at h
  obtain ⟨next, hread, hrest⟩ := yields_bind.mp h
  simp only [readMember, Keyword.ofName?_name] at hread
  exact ⟨mid, next, hbefore, hread, facet_foldlM_of_unwritten hrest hafter⟩

theorem exists_read_of_written (h : (members.foldlM (readMember site) partly).Yields fits last)
    (hnodup : (Members.names members).Nodup) {value : Json} (hmem : (writer.name, value) ∈ members)
    (honly : ∀ other value, (other.name, value) ∈ members → Writes other keyword → other = writer) :
    ∃ mid next : UnfinishedNode, mid.facet keyword = partly.facet keyword ∧
      (mid.read site writer value).Yields fits next ∧ last.facet keyword = next.facet keyword := by
  obtain ⟨before, after, rfl⟩ := List.append_of_mem hmem
  simp only [Members.names, List.map_append, List.map_cons, List.nodup_append, List.nodup_cons, List.mem_map,
    List.mem_cons] at hnodup
  have hafter (other : Keyword) (value' : Json) (hother : (other.name, value') ∈ after) : ¬Writes other keyword := by
    intro hwrites
    obtain rfl := honly other value' (by simp [hother]) hwrites
    exact hnodup.2.1.1 ⟨_, hother, rfl⟩
  obtain ⟨mid, next, hbefore, hread, hlast⟩ := exists_read_of_last h hafter
  refine ⟨mid, next, facet_foldlM_of_unwritten hbefore ?_, hread, hlast⟩
  intro other value' hother hwrites
  obtain rfl := honly other value' (by simp [hother]) hwrites
  exact hnodup.2.2 _ ⟨_, hother, rfl⟩ _ (.inl rfl) rfl

theorem exists_read_of_find? (h : (members.foldlM (readMember site) partly).Yields fits last)
    (hnodup : (Members.names members).Nodup) (hown : keyword ∉ [Keyword.allOf, .multipleOf, .required]) :
    (Members.find? members keyword.name = none ∧ last.facet keyword = partly.facet keyword) ∨
      ∃ (value : Json) (mid next : UnfinishedNode), Members.find? members keyword.name = some value ∧
        mid.facet keyword = partly.facet keyword ∧ (mid.read site keyword value).Yields fits next ∧
        last.facet keyword = next.facet keyword := by
  have honly (writer : Keyword) (hwrites : Writes writer keyword) : writer = keyword :=
    hwrites.resolve_right fun hshares => hown hshares.mem
  cases hfind : Members.find? members keyword.name with
  | none =>
    refine .inl ⟨rfl, facet_foldlM_of_unwritten h fun writer value hmem hwrites => ?_⟩
    rw [honly writer hwrites] at hmem
    rw [Members.find?_of_mem hnodup hmem] at hfind
    cases hfind
  | some value =>
    obtain ⟨mid, next, hmid, hread, hlast⟩ :=
      exists_read_of_written h hnodup (Members.mem_of_find? hfind) fun writer _ _ => honly writer
    exact .inr ⟨value, mid, next, rfl, hmid, hread, hlast⟩

end Writers

/-- The names that a keyword adds to what is required. -/
def adds (site : Site) : Keyword → Json → List String
  | .required, value => value.strings?.getD []
  | .properties, value => if site.draft = some .draft3 then requiredByMark (value.members?.getD []) else []
  | _, _ => []

section Required

variable {located : Location → SchemaId → Prop} {site site' : Site} {partly next last : UnfinishedNode}
  {members members' : Members Json} {keyword : Keyword} {value value' : Json} {name : String}

theorem mem_foldl_insertName {names start : List String} :
    name ∈ names.foldl insertName start ↔ name ∈ start ∨ name ∈ names := by
  induction names generalizing start with
  | nil => simp
  | cons head rest ih => rw [List.foldl_cons, ih, mem_insertName, List.mem_cons, or_assoc]

theorem mem_requiredByMark {properties : Members Json} :
    name ∈ requiredByMark properties ↔ ∃ schema, (name, schema) ∈ properties ∧
      (schema.member? Keyword.required.name).bind Json.bool? = some true := by
  simp only [requiredByMark, List.mem_map, List.mem_filter, Prod.exists, exists_and_right, exists_eq_right]
  refine exists_congr fun schema => and_congr_right fun _ => ?_
  cases schema.member? Keyword.required.name with
  | none => simp
  | some mark => cases mark with
    | bool marked => cases marked <;> simp [Json.bool?]
    | _ => simp [Json.bool?]

theorem mem_required_read (h : (partly.read site keyword value).Yields (AtPlace located) next) :
    name ∈ next.node.required ↔ name ∈ partly.node.required ∨ name ∈ adds site keyword value := by
  by_cases hrequired : keyword = .required
  · subst hrequired
    have hnames (hx : (do
          let names ← site.expect .required .strings value.strings?
          pure { partly with node.required := names.foldl insertName partly.node.required } :
        Reading UnfinishedNode).Yields (AtPlace located) next) :
        name ∈ next.node.required ↔ name ∈ partly.node.required ∨ name ∈ adds site .required value := by
      obtain ⟨names, hnames, rfl⟩ := yields_bind_pure.mp hx
      rw [yields_expect] at hnames
      simp only [adds, hnames, Option.getD_some]
      exact mem_foldl_insertName
    cases value with
    | bool =>
      simp only [read] at h
      split at h
      · obtain rfl := yields_done.mp h
        simp [adds, Json.strings?, Json.items?]
      · cases h
    | _ => exact hnames h
  · by_cases hproperties : keyword = .properties
    · subst hproperties
      obtain ⟨named, _, rfl⟩ := yields_bind_pure.mp h
      exact mem_foldl_insertName
    · have hshares : ¬Shares keyword .required := by
        cases keyword <;> first | exact id | exact absurd rfl hproperties
      have hsame : Facet.names next.node.required = .names partly.node.required :=
        (keeps_read h).facet .required (not_or.mpr ⟨hrequired, hshares⟩)
      have hnone : adds site keyword value = [] := by
        cases keyword <;> first | rfl | exact absurd rfl hrequired | exact absurd rfl hproperties
      rw [Facet.names.inj hsame, hnone]
      simp

theorem mem_required_foldlM (h : (members.foldlM (readMember site) partly).Yields (AtPlace located) last) :
    name ∈ last.node.required ↔ name ∈ partly.node.required ∨
      ∃ (writer : Keyword) (value : Json), (writer.name, value) ∈ members ∧ name ∈ adds site writer value := by
  induction members generalizing partly with
  | nil =>
    obtain rfl := yields_done.mp h
    simp
  | cons member rest ih =>
    obtain ⟨written, value⟩ := member
    rw [List.foldlM_cons] at h
    obtain ⟨mid, hmid, hrest⟩ := yields_bind.mp h
    rw [ih hrest]
    simp only [List.mem_cons, Prod.mk.injEq]
    obtain ⟨keyword, rfl, hread⟩ | ⟨hnot, rfl⟩ := readMember_cases hmid
    · rw [mem_required_read hread, or_assoc]
      refine or_congr_right ⟨?_, ?_⟩
      · rintro (hadds | ⟨writer, other, hmem, hadds⟩)
        · exact ⟨keyword, value, .inl ⟨rfl, rfl⟩, hadds⟩
        · exact ⟨writer, other, .inr hmem, hadds⟩
      · rintro ⟨writer, other, ⟨hwriter, rfl⟩ | hmem, hadds⟩
        · exact .inl (Keyword.name_inj.mp hwriter ▸ hadds)
        · exact .inr ⟨writer, other, hmem, hadds⟩
    · simp [Ne.symm (hnot _), extend]

theorem adds_reordered (hvalue : value.Reordered value')
    (hdraft : site.draft = some .draft3 → site'.draft = some .draft3)
    (h : name ∈ adds site keyword value) : name ∈ adds site' keyword value' := by
  cases keyword with
  | required =>
    simp only [adds] at h ⊢
    rwa [← hvalue.strings?_eq]
  | properties =>
    simp only [adds] at h ⊢
    split at h
    · rw [if_pos (hdraft ‹_›)]
      obtain ⟨schema, hschema, hmark⟩ := mem_requiredByMark.mp h
      obtain ⟨other, hother, hsame⟩ := hvalue.exists_member hschema
      have hmarks : (schema.member? Keyword.required.name).bind Json.bool? =
          (other.member? Keyword.required.name).bind Json.bool? :=
        bind_eq_of_optionRel (hsame.member? _) fun _ _ hpart => hpart.bool?_eq
      exact mem_requiredByMark.mpr ⟨other, hother, hmarks.symm.trans hmark⟩
    · cases h
  | _ => cases h

end Required

section Members

variable {located located' : Location → SchemaId → Prop} {site site' : Site} {agree : SchemaId → SchemaId → Prop}
  {partly partly' last last' : UnfinishedNode} {members members' : Members Json} {keyword : Keyword}

/-- Reading the members of an object in two orders leaves fields that agree. -/
theorem agrees_foldlM
    (hagree : ∀ steps id other, located (site.location.child steps) id → located' (site'.location.child steps) other →
      agree id other)
    (hmembers : Check.AlikeMembers Json.Reordered members members') (hnodup : (Members.names members).Nodup)
    (hnodup' : (Members.names members').Nodup) (hunaliased : Unaliased members)
    (hdraft : site.draft = some .draft3 ↔ site'.draft = some .draft3)
    (h : (members.foldlM (readMember site) partly).Yields (AtPlace located) last)
    (h' : (members'.foldlM (readMember site') partly').Yields (AtPlace located') last')
    (hstart : ∀ keyword, Facet.Agrees agree (partly.facet keyword) (partly'.facet keyword)) (keyword : Keyword) :
    Facet.Agrees agree (last.facet keyword) (last'.facet keyword) := by
  by_cases hrequired : keyword = .required
  · subst hrequired
    intro name
    have hbefore : name ∈ partly.node.required ↔ name ∈ partly'.node.required := hstart .required name
    rw [mem_required_foldlM h, mem_required_foldlM h', hbefore]
    refine or_congr_right ⟨?_, ?_⟩
    · rintro ⟨writer, value, hmem, hadds⟩
      obtain ⟨value', hmem', hvalue⟩ := hmembers.entries.left _ value hmem
      exact ⟨writer, value', hmem', adds_reordered hvalue hdraft.mp hadds⟩
    · rintro ⟨writer, value', hmem, hadds⟩
      obtain ⟨value, hmem', hvalue⟩ := hmembers.entries.right _ value' hmem
      exact ⟨writer, value, hmem', adds_reordered hvalue.symm hdraft.mpr hadds⟩
  · by_cases hwriter : ∃ writer value, (Keyword.name writer, value) ∈ members ∧ Writes writer keyword
    · obtain ⟨writer, value, hmem, hwrites⟩ := hwriter
      have honly (other : Keyword) (value' : Json) (hother : (other.name, value') ∈ members)
          (hwrites' : Writes other keyword) : other = writer :=
        eq_of_writes hunaliased hrequired hwrites' hwrites (List.mem_map.mpr ⟨_, hother, rfl⟩)
          (List.mem_map.mpr ⟨_, hmem, rfl⟩)
      obtain ⟨value', hmem', hvalue⟩ := hmembers.entries.left _ value hmem
      obtain ⟨mid, next, hmid, hread, hlast⟩ := exists_read_of_written h hnodup hmem honly
      obtain ⟨mid', next', hmid', hread', hlast'⟩ := exists_read_of_written h' hnodup' hmem'
        fun other value' hother hwrites' => by
          obtain ⟨value, hother', _⟩ := hmembers.entries.right _ value' hother
          exact honly other value hother' hwrites'
      rw [hlast, hlast']
      refine agrees_read hagree hvalue hread hread' hwrites hrequired ?_
      rw [hmid, hmid']
      exact hstart keyword
    · rw [facet_foldlM_of_unwritten h, facet_foldlM_of_unwritten h']
      · exact hstart keyword
      · intro writer value' hmem hwrites
        obtain ⟨value, hmem', _⟩ := hmembers.entries.right _ value' hmem
        exact hwriter ⟨writer, value, hmem', hwrites⟩
      · exact fun writer value hmem hwrites => hwriter ⟨writer, value, hmem, hwrites⟩

end Members

end UnfinishedNode

/-- Two nodes say the same of nodes that agree. -/
structure SchemaNode.Agrees (agree : SchemaId → SchemaId → Prop) (node node' : SchemaNode) : Prop where
  valid : node.valid = node'.valid
  strict : node.strictIntegers = node'.strictIntegers
  facets : ∀ keyword, (node.facet keyword).Agrees agree (node'.facet keyword)

namespace UnfinishedNode

variable {agree : SchemaId → SchemaId → Prop} {partly partly' : UnfinishedNode}

theorem agrees_finish (h : ∀ keyword, Facet.Agrees agree (partly.facet keyword) (partly'.facet keyword))
    (keyword : Keyword) : (partly.finish.facet keyword).Agrees agree (partly'.finish.facet keyword) := by
  obtain ⟨hleast, hmost⟩ := partly.bounds_finish_eq
  obtain ⟨hleast', hmost'⟩ := partly'.bounds_finish_eq
  obtain ⟨hflag, habove⟩ :
      partly.node.exclusiveMinimum = partly'.node.exclusiveMinimum ∧ partly.above = partly'.above :=
    h .exclusiveMinimum
  obtain ⟨hflag', hbelow⟩ :
      partly.node.exclusiveMaximum = partly'.node.exclusiveMaximum ∧ partly.below = partly'.below :=
    h .exclusiveMaximum
  have hminimum : partly.node.minimum = partly'.node.minimum := h .minimum
  have hmaximum : partly.node.maximum = partly'.node.maximum := h .maximum
  rw [hflag, habove, hminimum, ← hleast', Prod.mk.injEq] at hleast
  rw [hflag', hbelow, hmaximum, ← hmost', Prod.mk.injEq] at hmost
  by_cases hbound : keyword ∈ [.minimum, .maximum, .exclusiveMinimum, .exclusiveMaximum]
  · simp only [List.mem_cons, List.not_mem_nil, or_false] at hbound
    rcases hbound with rfl | rfl | rfl | rfl
    · exact hleast.1
    · exact hmost.1
    · exact ⟨hleast.2, rfl⟩
    · exact ⟨hmost.2, rfl⟩
  · rw [facet_finish_of_ne _ _ hbound, facet_finish_of_ne _ _ hbound]
    exact h keyword

end UnfinishedNode

theorem SchemaNode.agrees_blank (agree : SchemaId → SchemaId → Prop) (valid valid' : Option Bool)
    (version version' : Option String) (keyword : Keyword) :
    (SchemaNode.facet { valid := valid, version := version } keyword).Agrees agree
      (SchemaNode.facet { valid := valid', version := version' } keyword) := by
  have hnone {α β : Type} {rel : α → β → Prop} : Option.Rel rel none none := .none
  have hnil {α β : Type} {rel : α → β → Prop} : Check.SameEntries rel ([] : Members α) ([] : Members β) :=
    ⟨fun _ _ hmem => (nomatch hmem), fun _ _ hmem => nomatch hmem⟩
  cases keyword <;> first
    | trivial | exact hnone | exact hnil | exact Check.RestAgrees.allowed | exact fun _ => Iff.rfl

theorem SchemaNode.agrees_boolean (agree : SchemaId → SchemaId → Prop) (valid : Bool) :
    (SchemaNode.boolean valid).Agrees agree (.boolean valid) :=
  ⟨rfl, rfl, agrees_blank agree _ _ _ _⟩

open UnfinishedNode in
theorem version_of_readObject {fits : Visit → SchemaId → Prop} {location : Location} {members : Members Json}
    {inherited : Option String} {node : SchemaNode} (h : (readObject location members inherited).Yields fits node) :
    node.version = siteVersion members inherited := by
  obtain ⟨version, hversion, last, hlast, rfl⟩ := yields_readObject.mp h
  rw [last.frame_finish.2, (frame_foldlM hlast).2]
  exact yields_versionAt hversion

open UnfinishedNode in
/-- What is read at two objects with the same members, in whatever order, says the same. -/
theorem agrees_readObject {located located' : Location → SchemaId → Prop} {agree : SchemaId → SchemaId → Prop}
    {location location' : Location} {members members' : Members Json} {inherited inherited' : Option String}
    {node node' : SchemaNode} (h : (readObject location members inherited).Yields (AtPlace located) node)
    (h' : (readObject location' members' inherited').Yields (AtPlace located') node')
    (hagree : ∀ steps id other, located (location.child steps) id → located' (location'.child steps) other →
      agree id other)
    (hmembers : Check.AlikeMembers Json.Reordered members members') (hnodup : (Members.names members).Nodup)
    (hnodup' : (Members.names members').Nodup) (hunaliased : Unaliased members)
    (hdraft : earlyDraft? (siteVersion members inherited) = earlyDraft? (siteVersion members' inherited')) :
    node.Agrees agree node' := by
  have hstrict : node.strictIntegers = node'.strictIntegers := by
    rw [SchemaNode.strictIntegers_eq, SchemaNode.strictIntegers_eq, version_of_readObject h, version_of_readObject h',
      hdraft]
  obtain ⟨version, hversion, last, hlast, rfl⟩ := yields_readObject.mp h
  obtain ⟨version', hversion', last', hlast', rfl⟩ := yields_readObject.mp h'
  obtain rfl := yields_versionAt hversion
  obtain rfl := yields_versionAt hversion'
  refine ⟨?_, hstrict, agrees_finish (agrees_foldlM hagree hmembers hnodup hnodup' hunaliased ?_ hlast hlast' ?_)⟩
  · exact (valid_of_readObject h).trans (valid_of_readObject h').symm
  · exact ⟨draft3_of_earlyDraft? hdraft, draft3_of_earlyDraft? hdraft.symm⟩
  · exact SchemaNode.agrees_blank agree _ _ _ _

end JsonSchema
