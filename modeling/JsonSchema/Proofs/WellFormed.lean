import JsonSchema.Engine
import JsonSchema.Proofs.Following
import JsonSchema.Proofs.GraphImage
import JsonSchema.Proofs.Linking.Fields
import JsonSchema.Proofs.Equality

/-!
The graphs that reads leave. No node is left empty and no link leads out of the graph; bounds and divisors are finite,
and boolean schemas have nothing else. So a schema that has been read fails to compile only through a media type.
-/
namespace JsonSchema

/-- What is true of every node of a document that has been read. -/
structure SchemaNode.WellFormed (node : SchemaNode) : Prop where
  divisor : ∀ divisor, node.multipleOf = some divisor → divisor.isFinite = true ∧ divisor.compare? .zero = some .gt
  minimum : ∀ bound, node.minimum = some bound → bound.isFinite = true
  maximum : ∀ bound, node.maximum = some bound → bound.isFinite = true
  /-- A boolean schema has nothing else. -/
  boolean : ∀ valid, node.valid = some valid → node = .boolean valid

theorem SchemaNode.wellFormed_boolean (valid : Bool) : (SchemaNode.boolean valid).WellFormed where
  divisor := fun _ h => nomatch h
  minimum := fun _ h => nomatch h
  maximum := fun _ h => nomatch h
  boolean := by
    intro other h
    cases h
    rfl

theorem SchemaNode.exists_link_of_mem_children {node : SchemaNode} {id : SchemaId} (h : id ∈ node.children) :
    ∃ keyword name, (name, id) ∈ node.links keyword := by
  have hunnamed {ids : List SchemaId} (hmem : id ∈ ids) : (none, id) ∈ SchemaNode.links.unnamed ids :=
    List.mem_map_of_mem hmem
  have hnamed {members : Members SchemaId} (hmem : id ∈ Members.values members) :
      ∃ name, (name, id) ∈ members.map fun member => (some member.1, member.2) := by
    obtain ⟨⟨name, _⟩, hentry, rfl⟩ := List.mem_map.mp hmem
    exact ⟨some name, List.mem_map.mpr ⟨_, hentry, rfl⟩⟩
  simp only [children, List.mem_append, List.mem_flatMap, List.mem_filterMap, List.mem_cons, List.not_mem_nil,
    or_false, exists_eq_right] at h
  rcases h with (((((h | h) | h) | h) | h) | h) | h
  · obtain ⟨ids, rfl | rfl | rfl, hmem⟩ := h
    · exact ⟨.allOf, none, hunnamed hmem⟩
    · exact ⟨.anyOf, none, hunnamed hmem⟩
    · exact ⟨.oneOf, none, hunnamed hmem⟩
  · rcases h with h | h | h | h | h | h
    · exact ⟨.not, none, by simp [links, links.unnamed, ← h]⟩
    · exact ⟨.condition, none, by simp [links, links.unnamed, ← h]⟩
    · exact ⟨.consequence, none, by simp [links, links.unnamed, ← h]⟩
    · exact ⟨.alternative, none, by simp [links, links.unnamed, ← h]⟩
    · exact ⟨.contains, none, by simp [links, links.unnamed, ← h]⟩
    · exact ⟨.propertyNames, none, by simp [links, links.unnamed, ← h]⟩
  · refine ⟨.items, none, ?_⟩
    cases hitems : node.items with
    | none => simp [hitems] at h
    | some items => cases items <;> simpa [links, hitems, links.unnamed] using h
  · obtain ⟨more, rfl | rfl, hschema⟩ := h
    · refine ⟨.additionalItems, none, ?_⟩
      cases hmore : node.additionalItems <;> simp_all [links, Additional.schemas, links.unnamed]
    · refine ⟨.additionalProperties, none, ?_⟩
      cases hmore : node.additionalProperties <;> simp_all [links, Additional.schemas, links.unnamed]
  · exact ⟨.properties, hnamed h⟩
  · exact ⟨.patternProperties, hnamed h⟩
  · obtain ⟨dependency, hmem, hschema⟩ := h
    obtain ⟨⟨name, other⟩, hentry, rfl⟩ := List.mem_map.mp hmem
    refine ⟨.dependencies, some name, List.mem_flatMap.mpr ⟨_, hentry, ?_⟩⟩
    cases other with
    | schema only =>
      cases hschema
      simp [Dependency.schemas]
    | names => cases hschema

theorem Mirrors.exists_place {located : Location → SchemaId → Prop} {location : Location} {members : Members Json}
    {node : SchemaNode} (h : Mirrors located location members node) {keyword : Keyword}
    {link : Option String × SchemaId} (hlink : link ∈ node.links keyword) :
    ∃ steps, LeadsAlong located location keyword steps link := by
  have hleads {places : List (List String)} (hall : List.Forall₂ (LeadsAlong located location keyword) places
      (node.links keyword)) : ∃ steps, LeadsAlong located location keyword steps link := by
    obtain ⟨steps, _, hsteps⟩ := Check.exists_of_forall₂_of_mem hall hlink
    exact ⟨steps, hsteps⟩
  by_cases hall : keyword = .allOf
  · subst hall
    by_cases hname : Keyword.allOf.name ∈ Members.names members
    · obtain ⟨⟨_, value⟩, hmem, rfl⟩ := List.mem_map.mp hname
      obtain ⟨before, after, hsplit⟩ := List.append_of_mem hmem
      exact hleads (h.bases before value after hsplit)
    · exact hleads (h.parents hname)
  · by_cases hbase : keyword = .extending
    · subst hbase
      cases hlink
    · by_cases hname : keyword.name ∈ Members.names members
      · obtain ⟨⟨_, value⟩, hmem, rfl⟩ := List.mem_map.mp hname
        exact hleads (h.links keyword value hmem hall hbase)
      · rw [h.absent keyword hname hall] at hlink
        cases hlink

namespace UnfinishedNode

variable {fits : Visit → SchemaId → Prop} {site : Site} {partly mid next last : UnfinishedNode} {keyword : Keyword}
  {value : Json} {members : Members Json}

theorem isFinite_of_binary64? (hvalid : value.Valid) {x : Binary64} (h : value.binary64? = some x) :
    x.isFinite = true := by
  cases value with
  | number n =>
    cases h
    exact Number.isFinite_toBinary64 hvalid
  | _ => cases h

theorem divisor?_eq_some_iff {x : Binary64} :
    value.divisor? = some x ↔ value.binary64? = some x ∧ x.isFinite = true ∧ x.compare? .zero = some .gt := by
  simp [Json.divisor?, Option.filter_eq_some_iff]

/-- The numbers that a keyword leaves are finite, and divisors are above zero. -/
def Bounded (keyword : Keyword) : Facet → Prop
  | .bound bound => ∀ x ∈ bound, x.isFinite = true ∧ (keyword = .multipleOf → x.compare? .zero = some .gt)
  | .exclusive _ bound => ∀ x ∈ bound, x.isFinite = true
  | _ => True

theorem bounded_read {writer : Keyword} (hvalid : value.Valid) (hwriter : Writes writer keyword)
    (h : (mid.read site writer value).Yields fits next) (hmid : Bounded keyword (mid.facet keyword)) :
    Bounded keyword (next.facet keyword) := by
  have hbound {expected : Expectation} {f : Binary64 → UnfinishedNode}
      (hx : (do pure (f (← site.expect writer expected value.binary64?))).Yields fits next) :
      ∃ x, x.isFinite = true ∧ f x = next := by
    obtain ⟨x, hread, rfl⟩ := Inquiry.yields_bind_pure.mp hx
    exact ⟨x, isFinite_of_binary64? hvalid (yields_expect.mp hread), rfl⟩
  have hdivisor (hx : (UnfinishedNode.read.readDivisor mid site value writer).Yields fits next) :
      ∃ x, (x.isFinite = true ∧ x.compare? .zero = some .gt) ∧
        ({ mid with node.multipleOf := some x } : UnfinishedNode) = next := by
    obtain ⟨_, _, hx⟩ := Inquiry.yields_bind.mp hx
    obtain ⟨x, hread, rfl⟩ := Inquiry.yields_bind_pure.mp hx
    exact ⟨x, (divisor?_eq_some_iff.mp (yields_expect.mp hread)).2, rfl⟩
  cases keyword with
  | minimum | maximum =>
    obtain rfl | hshares := hwriter
    · obtain ⟨x, hfinite, rfl⟩ := hbound h
      simpa [Bounded, facet] using hfinite
    · cases writer <;> cases hshares
  | exclusiveMinimum | exclusiveMaximum =>
    obtain rfl | hshares := hwriter
    · cases value with
      | bool exclusive =>
        obtain rfl := Inquiry.yields_done.mp h
        exact hmid
      | _ =>
        obtain ⟨x, hfinite, rfl⟩ := hbound h
        simpa [Bounded, facet] using hfinite
    · cases writer <;> cases hshares
  | multipleOf =>
    have hreads : writer = .multipleOf ∨ writer = .divisibleBy := by
      refine hwriter.imp_right fun hshares => ?_
      cases writer <;> first | rfl | cases hshares
    obtain rfl | rfl := hreads <;>
    · obtain ⟨x, hpositive, rfl⟩ := hdivisor h
      simpa [Bounded, facet] using hpositive
  | _ => trivial

theorem bounded_foldlM (hvalid : ∀ name value, (name, value) ∈ members → value.Valid)
    (h : (members.foldlM (readMember site) partly).Yields fits last) (keyword : Keyword)
    (hstart : Bounded keyword (partly.facet keyword)) : Bounded keyword (last.facet keyword) :=
  facet_foldlM h keyword hstart fun _ value hmem hwriter _ _ hread hmid =>
    bounded_read (hvalid _ value hmem) hwriter hread hmid

theorem bounds_finish (partly : UnfinishedNode) :
    (partly.finish.minimum = partly.node.minimum ∨ partly.finish.minimum = partly.above) ∧
      (partly.finish.maximum = partly.node.maximum ∨ partly.finish.maximum = partly.below) := by
  have hstricter (meets : Binary64 → Binary64 → Bool) (inclusive : Option Binary64) (flag : Bool)
      (exclusive : Option Binary64) : (stricter meets inclusive flag exclusive).1 = inclusive ∨
        (stricter meets inclusive flag exclusive).1 = exclusive := by
    unfold stricter
    repeat' split
    all_goals simp
  obtain ⟨hminimum, hmaximum⟩ := partly.bounds_finish_eq
  obtain ⟨hleast, _⟩ := Prod.ext_iff.mp hminimum
  obtain ⟨hmost, _⟩ := Prod.ext_iff.mp hmaximum
  rw [show partly.finish.minimum = _ from hleast, show partly.finish.maximum = _ from hmost]
  exact ⟨hstricter _ _ _ _, hstricter _ _ _ _⟩

end UnfinishedNode

open UnfinishedNode in
theorem wellFormed_of_readObject {fits : Visit → SchemaId → Prop} {location : Location} {members : Members Json}
    {inherited : Option String} {node : SchemaNode} (hvalid : ∀ name value, (name, value) ∈ members → value.Valid)
    (h : (readObject location members inherited).Yields fits node) : node.WellFormed := by
  obtain ⟨version, _, last, hlast, rfl⟩ := yields_readObject.mp h
  have hbounded (keyword : Keyword) : Bounded keyword (last.facet keyword) := by
    refine bounded_foldlM hvalid hlast keyword ?_
    cases keyword <;> simp [Bounded, facet]
  obtain ⟨hminimum, hmaximum⟩ := last.bounds_finish
  refine ⟨?_, ?_, ?_, ?_⟩
  · intro divisor hdivisor
    have hsame : last.finish.multipleOf = last.node.multipleOf :=
      Facet.bound.inj (last.facet_finish_of_ne .multipleOf (by simp))
    obtain ⟨hfinite, hpositive⟩ := hbounded .multipleOf divisor (hsame ▸ hdivisor)
    exact ⟨hfinite, hpositive rfl⟩
  · intro bound hbound
    rcases hminimum with heq | heq
    · exact (hbounded .minimum bound (heq ▸ hbound)).1
    · exact hbounded .exclusiveMinimum bound (heq ▸ hbound)
  · intro bound hbound
    rcases hmaximum with heq | heq
    · exact (hbounded .maximum bound (heq ▸ hbound)).1
    · exact hbounded .exclusiveMaximum bound (heq ▸ hbound)
  · intro valid hsome
    rw [valid_of_readObject h] at hsome
    cases hsome

theorem LinkState.Loaded.valid {source : LinkSource} {state : LinkState} (h : state.Loaded source) {document : Json}
    (hroot : state.valueAt? ⟨0, ""⟩ = some document) (hvalid : document.Valid)
    (hsource : ∀ address other, (address, other) ∈ source.documents.entries → other.Valid) {location : Location}
    {value : Json} (hvalue : state.valueAt? location = some value) : value.Valid := by
  obtain ⟨loaded, hloaded, hat⟩ := Option.bind_eq_some_iff.mp hvalue
  suffices loaded.root.Valid from this.at? hat
  obtain ⟨first, hfirst, hself⟩ := Option.bind_eq_some_iff.mp hroot
  obtain ⟨_, keys, _, hall⟩ := h
  cases hnumber : location.document with
  | zero =>
    obtain rfl : first = loaded := Option.some.inj (hfirst.symm.trans (hnumber ▸ hloaded))
    obtain rfl : first.root = document := Option.some.inj hself
    exact hvalid
  | succ number =>
    have hmem : loaded ∈ state.documents.drop 1 := by
      refine List.mem_of_getElem? (i := number) ?_
      rwa [List.getElem?_drop, Nat.add_comm, ← hnumber]
    obtain ⟨key, _, hfind, _⟩ := Check.exists_of_forall₂_of_mem hall hmem
    exact hsource _ _ (Members.mem_of_find? hfind)

namespace Reader

open LinkState

variable {reader : Reader} {document : Json} {root id : SchemaId} {final : LinkState} {node : SchemaNode}
  {schema : Schema}

section Read

variable (hcanonical : reader.source.Canonical) (hvalid : document.Valid)
  (hsource : ∀ address other, (address, other) ∈ reader.source.documents.entries → other.Valid)
  (h : reader.link? document = some (.ok root, final))

include hcanonical hvalid hsource h

theorem valid_of_valueAt? {location : Location} {value : Json} (hvalue : final.valueAt? location = some value) :
    value.Valid :=
  (reader.visited_root document hcanonical h).sound.loaded.valid (reader.valueAt?_root hcanonical h) hvalid hsource
    hvalue

theorem index_lt_of_mem_children (hget : final.graph.get? id = some node) :
    ∀ child ∈ node.children, child.index < final.graph.size := by
  intro child hchild
  have hsound := (reader.visited_root document hcanonical h).sound
  obtain ⟨keyword, name, hlinks⟩ := SchemaNode.exists_link_of_mem_children hchild
  obtain ⟨location, ⟨valid, _, rfl⟩ | ⟨members, inherited, hvalue, hyields⟩⟩ := hsound.exists_depicted_of_get? hget
  · cases hchild
  · have hnodup := (Json.valid_object.mp (valid_of_valueAt? hcanonical hvalid hsource h hvalue)).1
    have hmirrors : Mirrors (Located final) location members node := mirrors_of_readObject hyields hnodup
    obtain ⟨steps, _, hlocated⟩ := hmirrors.exists_place hlinks
    exact hsound.bounded _ _ hlocated

theorem index_lt_of_reachable (hreach : final.graph.Reachable root id) : id.index < final.graph.size := by
  have hvisited := reader.visited_root document hcanonical h
  cases hreach with
  | refl => exact hvisited.sound.bounded _ _ hvisited.placed
  | tail _ hfollows =>
    obtain ⟨node, hget, _, hmem⟩ := hfollows
    exact index_lt_of_mem_children hcanonical hvalid hsource h hget _ (node.followed_subset_children hmem)

theorem wellFormed_of_get? (hget : final.graph.get? id = some node) : node.WellFormed := by
  obtain ⟨location, ⟨valid, _, rfl⟩ | ⟨members, inherited, hvalue, hyields⟩⟩ :=
    (reader.visited_root document hcanonical h).sound.exists_depicted_of_get? hget
  · exact SchemaNode.wellFormed_boolean valid
  · have hobject : (Json.object members).Valid := valid_of_valueAt? hcanonical hvalid hsource h hvalue
    exact wellFormed_of_readObject (Json.valid_object.mp hobject).2 hyields

theorem exists_mediaType_of_compile_error {compiler : Compiler} (hbuiltin : compiler.constraints = Constraint.builtin)
    {error : CompileError} (herror : compiler.compile ⟨final.graph, root⟩ = .error error) :
    ∃ id node mediaType, final.graph.Reachable root id ∧ final.graph.get? id = some node ∧
      node.mediaType = some mediaType ∧ Constraint.isJsonMediaType mediaType = false ∧
      error = .unsupportedMediaType mediaType id := by
  obtain ⟨id, hreach, ⟨hnone, _⟩ | ⟨node, hget, _, constraint, hmem, hfault⟩⟩ :=
    Compiler.compile_atFault hbuiltin herror
  · have hsome := SchemaGraph.get?_isSome_iff.mpr (index_lt_of_reachable hcanonical hvalid hsource h hreach)
    rw [hnone] at hsome
    cases hsome
  · obtain ⟨mediaType, htype, hjson, rfl⟩ := Constraint.eq_of_builtin_error (hbuiltin ▸ hmem) hfault
    exact ⟨id, node, mediaType, hreach, hget, htype, hjson, rfl⟩

end Read

/-- A document that is read into a schema leaves a closed graph: every node in it is what stands at its place, and its
links lead to other nodes of the graph. Numbers are in order, and only a media type can keep the schema from being
compiled. -/
theorem read?_wellFormed (hcanonical : reader.source.Canonical) (hvalid : document.Valid)
    (hsource : ∀ address other, (address, other) ∈ reader.source.documents.entries → other.Valid)
    (h : reader.read? document = some (.ok schema)) :
    ∃ final, reader.link? document = some (.ok schema.root, final) ∧ final.graph = schema.graph ∧
      -- No link leads out of the graph.
      schema.root.index < schema.graph.size ∧
      (∀ id node, schema.graph.get? id = some node → ∀ child ∈ node.children, child.index < schema.graph.size) ∧
      -- No node is left empty.
      (∀ index < schema.graph.size, ∃ location node, final.nodeAt? location = some ⟨index⟩ ∧
        final.refAt? location = none ∧ schema.graph.get? ⟨index⟩ = some node ∧ final.Depicts location node) ∧
      (∀ id node, schema.graph.get? id = some node → node.WellFormed) ∧
      ∀ compiler : Compiler, compiler.constraints = Constraint.builtin → ∀ error,
        compiler.compile schema = .error error → ∃ id node mediaType, schema.graph.Reachable schema.root id ∧
          schema.graph.get? id = some node ∧ node.mediaType = some mediaType ∧
          Constraint.isJsonMediaType mediaType = false ∧ error = .unsupportedMediaType mediaType id := by
  obtain ⟨⟨result, final⟩, hlink, hresult⟩ := Option.map_eq_some_iff.mp h
  cases result with
  | error => cases hresult
  | ok root =>
  cases hresult
  have hvisited := reader.visited_root document hcanonical hlink
  refine ⟨final, hlink, rfl, hvisited.sound.bounded _ _ hvisited.placed, ?_, ?_, ?_, ?_⟩
  · exact fun _ _ hget => index_lt_of_mem_children hcanonical hvalid hsource hlink hget
  · exact fun _ hlt => hvisited.sound.exists_place hlt
  · exact fun _ _ hget => wellFormed_of_get? hcanonical hvalid hsource hlink hget
  · exact fun _ hbuiltin _ herror => exists_mediaType_of_compile_error hcanonical hvalid hsource hlink hbuiltin herror

/-- Rows within rows, each of them text of a type that cannot be checked. -/
def plainRows : Json :=
  .object [("items", .object [("$ref", .string "#")]), ("multipleOf", .number (.int 2)),
    ("contentMediaType", .string "text/plain")]

theorem read?_wellFormed_plainRows :
    ({} : Reader).source.Canonical ∧ plainRows.Valid ∧ ∃ schema, ({} : Reader).read? plainRows = some (.ok schema) ∧
      schema.graph.size = 1 ∧
      (∀ id node, schema.graph.get? id = some node → node.WellFormed ∧ ∀ child ∈ node.children, child.index < 1) ∧
      ∀ error, (Compiler.ofOptions {}).compile schema = .error error →
        ∃ id mediaType, error = .unsupportedMediaType mediaType id := by
  have hvalid : plainRows.Valid := by
    simp [plainRows, Json.Valid, Json.ValidMembers, Members.names, Number.Valid]
  refine ⟨canonical_default, hvalid, ?_⟩
  have hread : (({} : Reader).read? plainRows).map (fun result => result.map fun schema => schema.graph.size) =
      some (.ok 1) := by decide +kernel
  obtain ⟨result, hresult, hsize⟩ := Option.map_eq_some_iff.mp hread
  cases result with
  | error => cases hsize
  | ok schema =>
  have hsize : schema.graph.size = 1 := Except.ok.inj hsize
  obtain ⟨_, _, _, _, hclosed, _, hformed, hcompile⟩ :=
    read?_wellFormed canonical_default hvalid (fun _ _ hmem => absurd hmem List.not_mem_nil) hresult
  refine ⟨schema, hresult, hsize, fun id node hget => ⟨hformed id node hget, hsize ▸ hclosed id node hget⟩, ?_⟩
  intro error herror
  obtain ⟨id, _, mediaType, _, _, _, _, heq⟩ := hcompile _ rfl error herror
  exact ⟨id, mediaType, heq⟩

end Reader

end JsonSchema
