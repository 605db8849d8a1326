import JsonSchema.Proofs.Linking.Links
import JsonSchema.Proofs.Linking.Termination

/-!
The graph as an image of the document. After a read that succeeds, the nodes of the graph are the places of schemas that
were read, references share the nodes of the places that they name, and nodes have the links that their objects have.
Only a parent that is named before `allOf` is lost.
-/
namespace JsonSchema.Reader

open LinkState

def Located (final : LinkState) (location : Location) (id : SchemaId) : Prop := final.nodeAt? location = some id

/-- The graph of a read that succeeds is the image of the places of schemas that it came to. -/
theorem link?_image {reader : Reader} (hcanonical : reader.source.Canonical) {document : Json} {root : SchemaId}
    {final : LinkState} (h : reader.link? document = some (.ok root, final)) :
    reader.read? document = some (.ok ⟨final.graph, root⟩) ∧
    -- Nodes are the places of schemas.
    (∀ index < final.graph.size, ∃! location, Located final location ⟨index⟩ ∧ final.refAt? location = none) ∧
    (∀ location id, Located final location id → id.index < final.graph.size) ∧
    -- A reference has the node of the place that it names.
    (∀ location reference id, Located final location id → final.refAt? location = some reference →
      ∃ target, final.resolve? reader.source.rules location reference = some target ∧ Located final target id) ∧
    -- The root is the node of the document.
    (final.valueAt? ⟨0, ""⟩ = some document ∧ Located final ⟨0, ""⟩ root) ∧
    -- Nodes mirror what stands at their places.
    (∀ location id, Located final location id → final.refAt? location = none →
      (∃ valid, final.valueAt? location = some (.bool valid) ∧ final.graph.get? id = some (.boolean valid)) ∨
      ∃ members, final.valueAt? location = some (.object members) ∧ ∃ node, final.graph.get? id = some node ∧
        ((Members.names members).Nodup → Mirrors (Located final) location members node)) := by
  obtain ⟨hsound, _, _, hroot⟩ := reader.visited_root document hcanonical h
  refine ⟨?_, ?_, hsound.bounded, ?_, ⟨?_, hroot⟩, ?_⟩
  · rw [read?, h]
    rfl
  · intro index hlt
    obtain ⟨location, hid, href⟩ := hsound.surjective index hlt
    refine ⟨location, ⟨hid, href⟩, ?_⟩
    rintro other ⟨hid', href'⟩
    exact hsound.injective other location _ hid' hid href' href
  · intro location reference id hid href
    cases hsound.settled location id hid with
    | schema _ _ hnone => simp [href] at hnone
    | @reference _ target _ hhop hnext =>
      obtain ⟨other, href', hresolve⟩ := hop_eq_some_iff.mp hhop
      obtain rfl := Option.some.inj (href.symm.trans href')
      exact ⟨target, hresolve, hnext.nodeAt?⟩
  · exact reader.valueAt?_root hcanonical h
  · intro location id hid href
    obtain ⟨node, hget, ⟨valid, hvalue, rfl⟩ | ⟨members, inherited, hvalue, hyields⟩⟩ :=
      hsound.exists_depicted hid href
    · exact .inl ⟨valid, hvalue, hget⟩
    · exact .inr ⟨members, hvalue, node, hget, mirrors_of_readObject hyields⟩

def recurring : Json :=
  .object [("properties", .object [("next", .object [("$ref", .string "#")])]), ("items", .bool true)]

theorem link?_image_recurring :
    ({} : Reader).source.Canonical ∧ ∃ final, ({} : Reader).link? recurring = some (.ok ⟨0⟩, final) ∧
      final.graph.size = 2 ∧ Located final ⟨0, "/properties/next"⟩ ⟨0⟩ ∧
      ∀ index < 2, ∃! location, Located final location ⟨index⟩ ∧ final.refAt? location = none := by
  refine ⟨canonical_default, ?_⟩
  have hfinal : (({} : Reader).link? recurring).map (fun outcome => (outcome.1, outcome.2.graph.size,
      outcome.2.nodeAt? ⟨0, "/properties/next"⟩)) = some (.ok ⟨0⟩, 2, some ⟨0⟩) := by decide +kernel
  obtain ⟨⟨result, final⟩, hlink, hfacts⟩ := Option.map_eq_some_iff.mp hfinal
  simp only [Prod.mk.injEq] at hfacts
  obtain ⟨rfl, hsize, hnext⟩ := hfacts
  obtain ⟨_, hunique, _⟩ := link?_image canonical_default hlink
  rw [hsize] at hunique
  exact ⟨final, hlink, hsize, hnext, hunique⟩

def parentFirst : Json :=
  .object [("extends", .object [("type", .string "string")]), ("allOf", .array [.object [("pattern", .string "^a")]])]

/-- A link may be missing. -/
theorem links_incomplete_parentFirst :
    ¬∀ document root final, ({} : Reader).link? document = some (.ok root, final) →
      ∀ location id members node, Located final location id → final.refAt? location = none →
        final.valueAt? location = some (.object members) → (Members.names members).Nodup →
        final.graph.get? id = some node → ∀ (keyword : Keyword) (value : Json), (keyword.name, value) ∈ members →
          ∀ steps ∈ keyword.places value, ∃ child, Located final (location.child steps) child ∧
            child ∈ node.children := by
  intro h
  have hfinal : (({} : Reader).link? parentFirst).map (fun outcome => (outcome.1, outcome.2.nodeAt? ⟨0, ""⟩,
      outcome.2.nodeAt? ⟨0, "/extends"⟩, (outcome.2.graph.get? ⟨0⟩).map SchemaNode.children)) =
        some (.ok ⟨0⟩, some ⟨0⟩, some ⟨1⟩, some [⟨2⟩]) := by decide +kernel
  obtain ⟨⟨result, final⟩, hlink, hfacts⟩ := Option.map_eq_some_iff.mp hfinal
  simp only [Prod.mk.injEq] at hfacts
  obtain ⟨rfl, hroot, hparent, hchildren⟩ := hfacts
  obtain ⟨node, hget, hnode⟩ := Option.map_eq_some_iff.mp hchildren
  have hvalue := valueAt?_root _ canonical_default hlink
  have href : final.refAt? ⟨0, ""⟩ = none := by
    rw [refAt?, hvalue]
    rfl
  obtain ⟨child, hchild, hmem⟩ := h _ _ _ hlink ⟨0, ""⟩ ⟨0⟩ _ node hroot href hvalue (by decide) hget .extending _
    (List.mem_cons_self ..) ["extends"] (by decide)
  obtain rfl : (⟨1⟩ : SchemaId) = child := Option.some.inj (hparent.symm.trans hchild)
  rw [hnode] at hmem
  revert hmem
  decide

end JsonSchema.Reader
