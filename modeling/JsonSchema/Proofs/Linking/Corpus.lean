import JsonSchema.Proofs.Linking.Permutation
import JsonSchema.Reader

/-!
What reading may come to, read off the documents alone: the places, the references between them, and the drafts that
places may inherit. None of it depends on the order of members.
-/
namespace JsonSchema

/-- All documents that reading can come to: the one that is read, and those of the source. -/
structure Corpus where
  reader : Reader
  document : Json

/-- Where a document comes from: nothing for the one that is read, and for others the address that they are found
under. -/
abbrev Home := Option String

structure Place where
  home : Home
  pointer : String

def Place.child (place : Place) (steps : List String) : Place :=
  { place with pointer := steps.foldl Json.Pointer.push place.pointer }

section Members

variable {members members' : Members Json} (h : Check.AlikeMembers Json.Reordered members members')

include h

theorem find?_eq_none_iff {name : String} :
    Members.find? members name = none ↔ Members.find? members' name = none := by
  rw [← Option.not_isSome_iff_eq_none, ← Option.not_isSome_iff_eq_none, isSome_eq_of_optionRel (h.find? name)]

theorem siteVersion_eq (inherited : Option String) :
    siteVersion members inherited = siteVersion members' inherited := by
  have hfind := h.find? Keyword.schema.name
  unfold siteVersion
  generalize Members.find? members Keyword.schema.name = first at hfind ⊢
  generalize Members.find? members' Keyword.schema.name = second at hfind ⊢
  cases hfind with
  | none => rfl
  | @some value value' hvalue =>
    have hstring := hvalue.string?_eq
    cases value <;> cases value' <;> first | rfl | cases hstring <;> rfl

end Members

theorem string?_member?_eq {value value' : Json} (h : value.Reordered value') (name : String) :
    (value.member? name).bind Json.string? = (value'.member? name).bind Json.string? :=
  bind_eq_of_optionRel (h.member? name) fun _ _ hpart => hpart.string?_eq

namespace Json

mutual

def everyObject (holds : Members Json → Bool) : Json → Bool
  | array items => everyObjectInItems holds items
  | object members => holds members && everyObjectInMembers holds members
  | _ => true

def everyObjectInItems (holds : Members Json → Bool) : List Json → Bool
  | [] => true
  | item :: rest => item.everyObject holds && everyObjectInItems holds rest

def everyObjectInMembers (holds : Members Json → Bool) : Members Json → Bool
  | [] => true
  | (_, value) :: rest => value.everyObject holds && everyObjectInMembers holds rest

end

variable {holds : Members Json → Bool}

theorem inherited_everyObject : Inherited fun value => value.everyObject holds = true where
  items items h item hmem := by
    induction items with
    | nil => cases hmem
    | cons first rest ih =>
      obtain ⟨hfirst, hrest⟩ := Bool.and_eq_true_iff.mp h
      rcases List.mem_cons.mp hmem with rfl | hmem
      · exact hfirst
      · exact ih hrest hmem
  members members h name value hmem := by
    have hmembers := (Bool.and_eq_true_iff.mp h).2
    clear h
    induction members with
    | nil => cases hmem
    | cons first rest ih =>
      obtain ⟨hfirst, hrest⟩ := Bool.and_eq_true_iff.mp hmembers
      rcases List.mem_cons.mp hmem with rfl | hmem
      · exact hfirst
      · exact ih hmem hrest

theorem holds_of_everyObject {root : Json} (h : root.everyObject holds = true) {pointer : String}
    {members : Members Json} (hat : root.at? pointer = some (.object members)) : holds members = true :=
  (Bool.and_eq_true_iff.mp (inherited_everyObject.at? h hat)).1

end Json

namespace Corpus

def rules (corpus : Corpus) : UriRules := corpus.reader.source.rules

def root? (corpus : Corpus) : Home → Option Json
  | none => some corpus.document
  | some address => corpus.reader.source.documents.find? corpus.rules address

def valueAt? (corpus : Corpus) (place : Place) : Option Json :=
  (corpus.root? place.home).bind fun root => root.at? place.pointer

def refAt? (corpus : Corpus) (place : Place) : Option String :=
  (corpus.valueAt? place).bind fun value => (value.member? Keyword.reference.name).bind Json.string?

def baseOf (corpus : Corpus) (home : Home) : Option Uri :=
  (corpus.root? home).bind (LinkState.baseOfRoot corpus.rules home)

def versionOf (corpus : Corpus) (home : Home) : Option String :=
  (corpus.root? home).bind fun root => (root.member? Keyword.schema.name).bind Json.string?

/-- A document goes by a key: by that of the address it is found under, or by that of the address it declares. -/
def Answers (corpus : Corpus) (key : String) (home : Home) : Prop :=
  (corpus.root? home).isSome ∧
    (home = some key ∨ (corpus.baseOf home).map (fun base => corpus.rules.key base.text) = some key)

def keyOf (corpus : Corpus) (home : Home) (reference : String) : String :=
  targetAddress corpus.rules (corpus.baseOf home) (splitFragment reference).1

def isLocal (reference : String) : Bool := (splitFragment reference).1.isEmpty

/-- A reference at a place may stand for a target. The document that is read goes before all others. -/
structure Names (corpus : Corpus) (place : Place) (reference : String) (target : Place) : Prop where
  pointer : target.pointer = Percent.decode ((splitFragment reference).2.getD "")
  isSome : (corpus.valueAt? target).isSome
  near : isLocal reference = true → target.home = place.home
  far : isLocal reference = false → corpus.Answers (corpus.keyOf place.home reference) target.home ∧
    (corpus.Answers (corpus.keyOf place.home reference) none → target.home = none)

/-- Reading may come to a place with a draft address to inherit, on a way through some documents. -/
inductive MayVisit (corpus : Corpus) : Place → Option String → List Home → Prop
  | root : MayVisit corpus ⟨none, ""⟩ ((corpus.versionOf none).or corpus.reader.options.defaultVersion) [none]
  | inside {place : Place} {inherited : Option String} {way : List Home} {members : Members Json} {keyword : Keyword}
    {value : Json} {steps : List String} : MayVisit corpus place inherited way →
    corpus.valueAt? place = some (.object members) → Members.find? members Keyword.reference.name = none →
    (keyword.name, value) ∈ members → steps ∈ keyword.places value →
    MayVisit corpus (place.child steps) (siteVersion members inherited) way
  | reference {place target : Place} {inherited : Option String} {way : List Home} {reference : String} :
    MayVisit corpus place inherited way → corpus.refAt? place = some reference → corpus.Names place reference target →
    MayVisit corpus target
      (if target.home = place.home then inherited else (corpus.versionOf target.home).or inherited) (target.home :: way)

/-- No schema can be come to under drafts that read or count differently. -/
def OneDraft (corpus : Corpus) : Prop :=
  ∀ place inherited way inherited' way' members, corpus.MayVisit place inherited way →
    corpus.MayVisit place inherited' way' → corpus.valueAt? place = some (.object members) →
    Members.find? members Keyword.reference.name = none →
    earlyDraft? (siteVersion members inherited) = earlyDraft? (siteVersion members inherited')

/-- What a reference names does not depend on which documents have been met. Either the document that is read is
named, or only one document goes by the key, which is found under it or has been passed on the way. -/
def Unambiguous (corpus : Corpus) : Prop :=
  ∀ place inherited way reference, corpus.MayVisit place inherited way → corpus.refAt? place = some reference →
    isLocal reference = false → ¬corpus.Answers (corpus.keyOf place.home reference) none →
    ∀ home, corpus.Answers (corpus.keyOf place.home reference) home →
      (home = some (corpus.keyOf place.home reference) ∨ home ∈ way) ∧
        ∀ other, corpus.Answers (corpus.keyOf place.home reference) other → other = home

variable {corpus corpus' : Corpus} {place target : Place} {reference : String} {inherited : Option String}
  {way : List Home}

theorem Unambiguous.eq_of_names (h : corpus.Unambiguous) (hvisit : corpus.MayVisit place inherited way)
    (href : corpus.refAt? place = some reference) {other : Place} (hnames : corpus.Names place reference target)
    (hother : corpus.Names place reference other) : target = other := by
  obtain ⟨home, pointer⟩ := target
  obtain ⟨home', pointer'⟩ := other
  obtain rfl : pointer = pointer' := hnames.pointer.trans hother.pointer.symm
  suffices home = home' from this ▸ rfl
  cases hlocal : isLocal reference with
  | true => exact (hnames.near hlocal).trans (hother.near hlocal).symm
  | false =>
    obtain ⟨hanswers, hroot⟩ := hnames.far hlocal
    obtain ⟨hanswers', hroot'⟩ := hother.far hlocal
    by_cases hfirst : corpus.Answers (corpus.keyOf place.home reference) none
    · exact (hroot hfirst).trans (hroot' hfirst).symm
    · exact ((h _ _ _ _ hvisit href hlocal hfirst _ hanswers').2 _ hanswers)

/-- The same documents with the members of their objects in other orders, read in the same way. -/
structure Reorders (corpus corpus' : Corpus) : Prop where
  rules : corpus.rules = corpus'.rules
  defaultVersion : corpus.reader.options.defaultVersion = corpus'.reader.options.defaultVersion
  roots : ∀ home, Option.Rel Json.Reordered (corpus.root? home) (corpus'.root? home)

theorem reorders_of_forall₂ {options : ReaderOptions} {rules : UriRules} {entries entries' : Members Json}
    {document document' : Json} (hdocument : document.Reordered document')
    (hentries : List.Forall₂ (fun x y => x.1 = y.1 ∧ x.2.Reordered y.2) entries entries') :
    Reorders ⟨⟨options, ⟨⟨entries⟩, rules⟩⟩, document⟩ ⟨⟨options, ⟨⟨entries'⟩, rules⟩⟩, document'⟩ := by
  refine ⟨rfl, rfl, fun home => ?_⟩
  cases home with
  | none => exact .some hdocument
  | some address =>
    change Option.Rel _ (Members.find? entries (rules.key address)) (Members.find? entries' (rules.key address))
    induction hentries with
    | nil => exact .none
    | @cons x y _ _ hhead _ ih =>
      obtain ⟨name, value⟩ := x
      obtain ⟨name', value'⟩ := y
      obtain ⟨rfl, hvalue⟩ : name = name' ∧ value.Reordered value' := hhead
      rw [Members.find?, Members.find?]
      split
      · exact .some hvalue
      · exact ih

namespace Reorders

variable (h : corpus.Reorders corpus')

include h

theorem symm : corpus'.Reorders corpus := by
  refine ⟨h.rules.symm, h.defaultVersion.symm, fun home => ?_⟩
  have hback : flip Json.Reordered = Json.Reordered := by
    funext value value'
    exact propext ⟨Json.Reordered.symm, Json.Reordered.symm⟩
  exact hback ▸ optionRel_flip (h.roots home)

theorem valueAt? (place : Place) : Option.Rel Json.Reordered (corpus.valueAt? place) (corpus'.valueAt? place) :=
  optionRel_bind (h.roots place.home) fun _ _ hroot => hroot.at? place.pointer

theorem exists_valueAt? {value : Json} (hvalue : corpus.valueAt? place = some value) :
    ∃ value', corpus'.valueAt? place = some value' ∧ value.Reordered value' :=
  exists_of_optionRel (hvalue ▸ h.valueAt? place)

theorem exists_object {members : Members Json} (hvalue : corpus.valueAt? place = some (.object members)) :
    ∃ members', corpus'.valueAt? place = some (.object members') ∧ (Members.names members).Nodup ∧
      (Members.names members').Nodup ∧ Check.AlikeMembers Json.Reordered members members' := by
  obtain ⟨value', hvalue', hsame⟩ := h.exists_valueAt? hvalue
  obtain ⟨⟨hvalid, hvalid'⟩, _⟩ := id hsame
  cases hsame.shape with
  | scalar _ hobject => exact absurd rfl (hobject members)
  | object hmembers =>
    exact ⟨_, hvalue', (Json.valid_object.mp hvalid).1, (Json.valid_object.mp hvalid').1, hmembers⟩

theorem refAt?_eq (place : Place) : corpus.refAt? place = corpus'.refAt? place :=
  bind_eq_of_optionRel (h.valueAt? place) fun _ _ hvalue => string?_member?_eq hvalue _

theorem versionOf_eq (home : Home) : corpus.versionOf home = corpus'.versionOf home :=
  bind_eq_of_optionRel (h.roots home) fun _ _ hroot => string?_member?_eq hroot _

theorem baseOf_eq (home : Home) : corpus.baseOf home = corpus'.baseOf home := by
  rw [baseOf, baseOf, h.rules]
  refine bind_eq_of_optionRel (h.roots home) fun root root' hroot => ?_
  have hdeclared : LinkState.declaredId? root = LinkState.declaredId? root' :=
    bind_eq_of_optionRel (optionRel_or (hroot.member? _) (hroot.member? _)) fun _ _ hid => hid.string?_eq
  simp only [LinkState.baseOfRoot, hdeclared]

theorem keyOf_eq (home : Home) (reference : String) : corpus.keyOf home reference = corpus'.keyOf home reference := by
  rw [keyOf, keyOf, h.rules, h.baseOf_eq]

theorem isSome_root?_iff (home : Home) : (corpus.root? home).isSome ↔ (corpus'.root? home).isSome := by
  rw [isSome_eq_of_optionRel (h.roots home)]

theorem answers_iff (key : String) (home : Home) : corpus.Answers key home ↔ corpus'.Answers key home := by
  rw [Answers, Answers, h.isSome_root?_iff, h.baseOf_eq, h.rules]

theorem names (hnames : corpus.Names place reference target) : corpus'.Names place reference target where
  pointer := hnames.pointer
  isSome := by
    obtain ⟨value, hvalue⟩ := Option.isSome_iff_exists.mp hnames.isSome
    obtain ⟨value', hvalue', _⟩ := h.exists_valueAt? hvalue
    simp [hvalue']
  near := hnames.near
  far hlocal := by
    obtain ⟨hanswers, hroot⟩ := hnames.far hlocal
    rw [← h.keyOf_eq, ← h.answers_iff, ← h.answers_iff]
    exact ⟨hanswers, hroot⟩

theorem mayVisit (hvisit : corpus.MayVisit place inherited way) : corpus'.MayVisit place inherited way := by
  induction hvisit with
  | root =>
    rw [h.versionOf_eq, h.defaultVersion]
    exact .root
  | @inside place inherited way members keyword value steps _ hvalue href hmem hsteps ih =>
    obtain ⟨members', hvalue', _, _, hmembers⟩ := h.exists_object hvalue
    obtain ⟨value', hmem', hsame⟩ := hmembers.entries.left _ value hmem
    rw [siteVersion_eq hmembers]
    refine .inside ih hvalue' ?_ hmem' (Keyword.mem_places_reordered hsame hsteps)
    rwa [← find?_eq_none_iff hmembers]
  | reference _ href hnames ih =>
    rw [h.versionOf_eq]
    exact .reference ih (h.refAt?_eq _ ▸ href) (h.names hnames)

theorem oneDraft (hone : corpus.OneDraft) : corpus'.OneDraft := by
  intro place inherited way inherited' way' members' hvisit hvisit' hvalue' href'
  obtain ⟨members, hvalue, _, _, hmembers⟩ := h.symm.exists_object hvalue'
  rw [siteVersion_eq hmembers, siteVersion_eq hmembers]
  refine hone place _ way _ way' members (h.symm.mayVisit hvisit) (h.symm.mayVisit hvisit') hvalue ?_
  rwa [← find?_eq_none_iff hmembers]

theorem unambiguous (hclear : corpus.Unambiguous) : corpus'.Unambiguous := by
  intro place inherited way reference hvisit href hlocal
  simp only [← h.keyOf_eq, ← h.answers_iff]
  exact hclear place inherited way reference (h.symm.mayVisit hvisit) ((h.refAt?_eq place).trans href) hlocal

end Reorders

def everyObject (corpus : Corpus) (holds : Members Json → Bool) : Bool :=
  (corpus.document :: Members.values corpus.reader.source.documents.entries).all (Json.everyObject holds)

theorem holds_of_everyObject {holds : Members Json → Bool} (h : corpus.everyObject holds = true)
    {members : Members Json} (hvalue : corpus.valueAt? place = some (.object members)) : holds members = true := by
  obtain ⟨root, hroot, hat⟩ := Option.bind_eq_some_iff.mp hvalue
  refine Json.holds_of_everyObject (List.all_eq_true.mp h root ?_) hat
  obtain ⟨_ | address, _⟩ := place
  · obtain rfl := Option.some.inj hroot
    exact List.mem_cons_self ..
  · exact List.mem_cons_of_mem _ (List.mem_map.mpr ⟨_, Members.mem_of_find? hroot, rfl⟩)

def NeverBoth (corpus : Corpus) (keyword other : Keyword) : Prop :=
  ∀ place members, corpus.valueAt? place = some (.object members) →
    keyword.name ∈ Members.names members → other.name ∉ Members.names members

theorem neverBoth_of_everyObject {keyword other : Keyword} (h : corpus.everyObject (fun members =>
    !(Members.contains members keyword.name && Members.contains members other.name)) = true) :
    corpus.NeverBoth keyword other := by
  intro place members hvalue hmem hother
  obtain ⟨value, hfind⟩ := Members.exists_find?_of_mem hmem
  obtain ⟨value', hfind'⟩ := Members.exists_find?_of_mem hother
  simpa [Members.contains, hfind, hfind'] using holds_of_everyObject h hvalue

/-- No object names a draft, and no draft is taken for documents that name none. -/
structure Undated (corpus : Corpus) : Prop where
  defaultVersion : corpus.reader.options.defaultVersion = none
  objects : corpus.everyObject (fun members => !Members.contains members Keyword.schema.name) = true

namespace Undated

theorem find?_eq_none (h : corpus.Undated) {members : Members Json}
    (hvalue : corpus.valueAt? place = some (.object members)) : Members.find? members Keyword.schema.name = none := by
  simpa [Members.contains] using holds_of_everyObject h.objects hvalue

theorem versionOf_eq_none (h : corpus.Undated) (home : Home) : corpus.versionOf home = none := by
  unfold versionOf
  cases hroot : corpus.root? home with
  | none => rfl
  | some root =>
    cases root with
    | object members =>
      have hvalue : corpus.valueAt? ⟨home, ""⟩ = some (.object members) := by rw [valueAt?, hroot]; rfl
      rw [Option.bind_some, Json.member?, h.find?_eq_none hvalue]
      rfl
    | _ => rfl

theorem inherited_eq_none (h : corpus.Undated) (hvisit : corpus.MayVisit place inherited way) : inherited = none := by
  induction hvisit with
  | root => rw [h.versionOf_eq_none, h.defaultVersion]; rfl
  | inside _ hvalue _ _ _ ih => rw [siteVersion, h.find?_eq_none hvalue, ih]
  | reference _ _ _ ih =>
    rw [ih, h.versionOf_eq_none]
    exact ite_self _

theorem oneDraft (h : corpus.Undated) : corpus.OneDraft := by
  intro place inherited way inherited' way' members hvisit hvisit' _ _
  rw [h.inherited_eq_none hvisit, h.inherited_eq_none hvisit']

end Undated

/-- Documents that only go by what they are found under are not mistaken for each other. -/
theorem unambiguous_of_found (h : ∀ key address, corpus.Answers key (some address) → address = key) :
    corpus.Unambiguous := by
  intro place inherited way reference _ _ _ hroot home hanswers
  have hfound {home : Home} (hanswers : corpus.Answers (corpus.keyOf place.home reference) home) :
      home = some (corpus.keyOf place.home reference) := by
    cases home with
    | none => exact absurd hanswers hroot
    | some address => exact congrArg some (h _ _ hanswers)
  exact ⟨.inl (hfound hanswers), fun other hother => (hfound hother).trans (hfound hanswers).symm⟩

end Corpus

end JsonSchema
