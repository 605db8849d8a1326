import JsonSchema.Proofs.GraphImage
import JsonSchema.Proofs.Linking.Trace

/-!
Drafts of linked documents. A reference into another document passes on the draft of that document if it declares one.
So where drafts are named at the roots of documents only, every schema of a document that names one is read under it,
whichever references reading has come by.
-/
namespace JsonSchema

namespace LinkState

variable {rules : UriRules} {origin : Visit} {opened : List Location} {state : LinkState} {location : Location}
  {inherited : Option String} {version : String}

def declaredDraft? (state : LinkState) (number : Nat) : Option String :=
  (state.valueAt? ⟨number, ""⟩).bind fun root => (root.member? Keyword.schema.name).bind Json.string?

/-- Drafts are named at the roots of documents only: no other object that has been read as a schema names one. -/
def DraftsAtRoots (state : LinkState) : Prop :=
  ∀ location id members, state.nodeAt? location = some id → state.refAt? location = none →
    state.valueAt? location = some (.object members) → (Members.find? members Keyword.schema.name).isSome →
    location.pointer = ""

/-- Whether no place with a node holds an object that names a draft, apart from roots. -/
def namesDraftsAtRoots (state : LinkState) : Bool :=
  state.placed.all fun entry =>
    match state.valueAt? entry.1 with
    | some (.object members) => !Members.contains members Keyword.schema.name || entry.1.pointer == ""
    | _ => true

theorem draftsAtRoots_of_names (h : state.namesDraftsAtRoots = true) : state.DraftsAtRoots := by
  intro location id members hid _ hvalue hdraft
  obtain ⟨before, after, hplaced, _⟩ := List.lookup_eq_some_iff.mp hid
  have hmem : (location, id) ∈ state.placed := by simp [hplaced]
  have hentry := List.all_eq_true.mp h _ hmem
  simpa [hvalue, Members.contains, hdraft] using hentry

/-- The draft that a reference finds with a document is the one that the document declares. -/
theorem Traced.versionOf_eq (h : state.Traced rules origin opened) (number : Nat) :
    state.versionOf number = state.declaredDraft? number := by
  unfold versionOf declaredDraft? valueAt?
  cases hdocument : state.documents[number]? with
  | none => rfl
  | some document => exact h.drafts document (List.mem_of_getElem? hdocument)

theorem DraftsAtRoots.siteVersion_eq (hroots : state.DraftsAtRoots) {id : SchemaId} {members : Members Json}
    (hid : state.nodeAt? location = some id) (href : state.refAt? location = none)
    (hvalue : state.valueAt? location = some (.object members))
    (hdeclared : state.declaredDraft? location.document = some version) :
    siteVersion members (some version) = some version := by
  unfold siteVersion
  cases hdraft : Members.find? members Keyword.schema.name with
  | none => rfl
  | some draft =>
    -- The object is the root, so what it names is what the document declares.
    have hpointer := hroots location id members hid href hvalue (by simp [hdraft])
    have hroot : state.valueAt? ⟨location.document, ""⟩ = some (.object members) := by rw [← hpointer, hvalue]
    simp only [declaredDraft?, hroot, Option.bind_some, Json.member?, hdraft] at hdeclared
    cases draft with
    | string => exact hdeclared
    | _ => rfl

theorem ComesTo.inherited_eq (hroots : state.DraftsAtRoots)
    (hreached : ∀ location, state.Reached location → ∃ id, state.nodeAt? location = some id)
    (hversions : ∀ number, state.versionOf number = state.declaredDraft? number)
    (horigin : ∀ version, state.declaredDraft? origin.location.document = some version →
      origin.inherited = some version)
    (hcomes : ComesTo rules origin state location inherited)
    (hdeclared : state.declaredDraft? location.document = some version) : inherited = some version := by
  induction hcomes with
  | start => exact horigin version hdeclared
  | @inside location _ members _ _ _ _ hmet hvalue hmember _ _ ih =>
    obtain ⟨id, hid⟩ := hreached location hmet
    have href : state.refAt? location = none := by simp [refAt?, hvalue, Json.member?, hmember]
    rw [ih hdeclared]
    exact hroots.siteVersion_eq hid href hvalue hdeclared
  | @reference location target _ _ _ _ ih =>
    unfold passOn
    by_cases hsame : target.document = location.document
    · rw [if_pos hsame]
      exact ih (hsame ▸ hdeclared)
    · rw [if_neg hsame, hversions, hdeclared, Option.some_or]

end LinkState

namespace Reader

open LinkState

theorem inherited_rootVisit {reader : Reader} (hcanonical : reader.source.Canonical) {document : Json} {root : SchemaId}
    {final : LinkState} (h : reader.link? document = some (.ok root, final)) {version : String}
    (hdeclared : final.declaredDraft? 0 = some version) : (reader.rootVisit document).inherited = some version := by
  obtain ⟨loaded, _, hstart⟩ := reader.start_cases document
  have hfirst : (reader.start document).documents[0]? = some loaded := by rw [hstart]; rfl
  have hversion : final.versionOf 0 = (reader.start document).versionOf 0 := 
    LinkState.versionOf_eq (reader.visited_root document hcanonical h).le hfirst
  rw [(link?_traced hcanonical h).versionOf_eq, hdeclared] at hversion
  simp [rootVisit, ← hversion]

/-- Drafts do not leak. After a read that succeeds, in which only roots of documents have named drafts, every node of an
object in a document that declares a draft at its root has that draft: whatever is taken for documents that declare
none, and by whichever references in the document and from others the object was come to first. -/
theorem link?_version {reader : Reader} (hcanonical : reader.source.Canonical) {document : Json} {root : SchemaId}
    {final : LinkState} (h : reader.link? document = some (.ok root, final)) (hroots : final.DraftsAtRoots)
    {location : Location} {id : SchemaId} {node : SchemaNode} {version : String} (hid : Located final location id)
    (href : final.refAt? location = none) (hnode : final.graph.get? id = some node) (hvalid : node.valid = none)
    (hdeclared : final.declaredDraft? location.document = some version) : node.version = some version := by
  have htraced := link?_traced hcanonical h
  obtain ⟨_, _, _, _, _, hmirrors⟩ := link?_image hcanonical h
  rcases hmirrors location id hid href with ⟨valid, _, hboolean⟩ | ⟨members, hvalue, _⟩
  · obtain rfl := Option.some.inj (hnode.symm.trans hboolean)
    cases hvalid
  · obtain hopen | ⟨other, inherited, hget, hcomes, hversion⟩ := htraced.objects location id members hid href hvalue
    · cases hopen
    · obtain rfl := Option.some.inj (hnode.symm.trans hget)
      have hinherited : inherited = some version :=
        hcomes.inherited_eq hroots (fun _ => exists_nodeAt?_of_reached hcanonical h) htraced.versionOf_eq
          (fun _ => inherited_rootVisit hcanonical h) hdeclared
      rw [hversion, hinherited]
      exact hroots.siteVersion_eq hid href hvalue hdeclared

def twoDrafts : Reader where
  options.defaultVersion := some "draft-07"
  source.documents := ⟨[("points", .object [("$schema", .string "draft-03"),
      ("items", .object [("$ref", .string "lines#/not")]), ("contains", .object [])]),
    ("lines", .object [("$schema", .string "draft-06"),
      ("not", .object [("items", .object [("$ref", .string "points#/contains")])])])]⟩
  source.rules := ⟨fun _ => none, fun _ _ => none⟩

def refersToPoints : Json := .object [("not", .object [("$ref", .string "points#/items")])]

theorem link?_version_twoDrafts :
    twoDrafts.source.Canonical ∧ ∃ final node, twoDrafts.link? refersToPoints = some (.ok ⟨0⟩, final) ∧
      Located final ⟨1, "/contains"⟩ ⟨2⟩ ∧ final.graph.get? ⟨2⟩ = some node ∧ node.version = some "draft-03" := by
  have hstable : twoDrafts.source.rules.Stable := ⟨fun text => splitFragment_fst_fst text, fun _ _ _ => rfl⟩
  have hcanonical : twoDrafts.source.Canonical := LinkSource.canonical_of_stable hstable
  have hfinal : (twoDrafts.link? refersToPoints).map (fun outcome => (outcome.1, outcome.2.nodeAt? ⟨1, "/contains"⟩,
      (outcome.2.graph.get? ⟨2⟩).map SchemaNode.valid)) = some (.ok ⟨0⟩, some ⟨2⟩, some none) := by decide +kernel
  obtain ⟨⟨result, final⟩, hlink, hfacts⟩ := Option.map_eq_some_iff.mp hfinal
  simp only [Prod.mk.injEq] at hfacts
  obtain ⟨rfl, hid, hvalid⟩ := hfacts
  obtain ⟨node, hnode, hnone⟩ := Option.map_eq_some_iff.mp hvalid
  have hdrafts : (twoDrafts.link? refersToPoints).map (fun outcome => (outcome.2.refAt? ⟨1, "/contains"⟩,
      outcome.2.declaredDraft? 1, outcome.2.namesDraftsAtRoots)) = some (none, some "draft-03", true) := by
    decide +kernel
  simp only [hlink, Option.map_some, Option.some.injEq, Prod.mk.injEq] at hdrafts
  obtain ⟨href, hdeclared, hroots⟩ := hdrafts
  refine ⟨hcanonical, final, node, hlink, hid, hnode, ?_⟩
  exact link?_version hcanonical hlink (draftsAtRoots_of_names hroots) hid href hnode hnone hdeclared

end Reader

end JsonSchema
