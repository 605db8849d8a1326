import JsonSchema.Check
import JsonSchema.Proofs.Linking.Fields

/-!
The links of a node. A node has, keyword by keyword, the nodes of the schemas in the keyword's value, in document order
and with none missing. Only `allOf` and `extends` are kept in one list, where `allOf` takes the place of everything that
was there before.
-/
namespace JsonSchema

namespace Keyword

def indexed (keyword : Keyword) (value : Json) : List (List String) :=
  (List.range (value.items?.getD []).length).map fun i => [keyword.name, toString i]

def named (keyword : Keyword) (value : Json) : List (List String) :=
  (value.members?.getD []).map fun (name, _) => [keyword.name, name]

def ifObject (keyword : Keyword) : Json → List (List String)
  | .object _ => [[keyword.name]]
  | _ => []

def dependency (name : String) : Json → List (List String)
  | .object _ | .bool _ => [[dependencies.name, name]]
  | _ => []

def places (keyword : Keyword) (value : Json) : List (List String) :=
  match keyword with
  | .allOf | .anyOf | .oneOf => keyword.indexed value
  | .not | .condition | .consequence | .alternative | .contains | .propertyNames => [[keyword.name]]
  | .extending | .items =>
    match value with
    | .array _ => keyword.indexed value
    | _ => [[keyword.name]]
  | .additionalItems | .additionalProperties => keyword.ifObject value
  | .properties | .patternProperties => keyword.named value
  | .dependencies => (value.members?.getD []).flatMap fun (name, value) => dependency name value
  | _ => []

end Keyword

namespace SchemaNode

/-- The links of a node that come from a keyword, with their names where they have any. Those of `extends` are among
those of `allOf`. -/
def links (node : SchemaNode) : Keyword → List (Option String × SchemaId)
  | .allOf => unnamed (node.allOf.getD [])
  | .anyOf => unnamed (node.anyOf.getD [])
  | .oneOf => unnamed (node.oneOf.getD [])
  | .not => unnamed node.not.toList
  | .condition => unnamed node.condition.toList
  | .consequence => unnamed node.consequence.toList
  | .alternative => unnamed node.alternative.toList
  | .contains => unnamed node.contains.toList
  | .propertyNames => unnamed node.propertyNames.toList
  | .items =>
    match node.items with
    | some (.every schema) => [(none, schema)]
    | some (.tuple schemas) => unnamed schemas
    | none => []
  | .additionalItems => unnamed node.additionalItems.schemas
  | .additionalProperties => unnamed node.additionalProperties.schemas
  | .properties => node.properties.map fun (name, schema) => (some name, schema)
  | .patternProperties => node.patternProperties.map fun (name, schema) => (some name, schema)
  | .dependencies =>
    node.dependencies.flatMap fun (name, dependency) => dependency.schemas.map fun schema => (some name, schema)
  | _ => []
where
  unnamed (schemas : List SchemaId) : List (Option String × SchemaId) := schemas.map fun schema => (none, schema)

def bare (node : SchemaNode) : SchemaNode where
  allOf := node.allOf
  anyOf := node.anyOf
  oneOf := node.oneOf
  not := node.not
  condition := node.condition
  consequence := node.consequence
  alternative := node.alternative
  items := node.items
  additionalItems := node.additionalItems
  contains := node.contains
  properties := node.properties
  patternProperties := node.patternProperties
  additionalProperties := node.additionalProperties
  propertyNames := node.propertyNames
  dependencies := node.dependencies

theorem links_eq_of_bare {node other : SchemaNode} (h : node.bare = other.bare) (keyword : Keyword) :
    node.links keyword = other.links keyword := by
  have hbare (node : SchemaNode) : node.bare.links keyword = node.links keyword := by cases keyword <;> rfl
  rw [← hbare node, h, hbare]

end SchemaNode

/-- A link leads to the node at some steps from an object, the last of which is its name if it has one. -/
def LeadsAlong (located : Location → SchemaId → Prop) (location : Location) (keyword : Keyword) (steps : List String)
    (link : Option String × SchemaId) : Prop :=
  (∀ name ∈ link.1, steps = [keyword.name, name]) ∧ located (location.child steps) link.2

namespace UnfinishedNode

variable {located : Location → SchemaId → Prop} {site : Site} {partly next : UnfinishedNode} {keyword other : Keyword}
  {value : Json}

abbrev AtPlace (located : Location → SchemaId → Prop) : Visit → SchemaId → Prop := fun visit => located visit.location

theorem yields_expect {α : Type} {fits : Visit → SchemaId → Prop} {expected : Expectation} {result : Option α}
    {read : α} : (site.expect keyword expected result).Yields fits read ↔ result = some read := by
  cases result <;> simp [Site.expect, eq_comm]

theorem yields_child {steps : List String} {id : SchemaId} :
    (site.child keyword steps).Yields (AtPlace located) id ↔
      located (site.location.child (keyword.name :: steps)) id := by
  simp [Site.child]

theorem links_eq_of_facet (h : next.facet keyword = partly.facet keyword) :
    next.node.links keyword = partly.node.links keyword := by
  cases keyword with
  | allOf | anyOf | oneOf => exact congrArg (fun ids => SchemaNode.links.unnamed (ids.getD [])) (Facet.schemas.inj h)
  | not | condition | consequence | alternative | contains | propertyNames =>
    exact congrArg (fun id => SchemaNode.links.unnamed id.toList) (Facet.schema.inj h)
  | items => simp only [SchemaNode.links, Facet.items.inj h]
  | additionalItems | additionalProperties => simp only [SchemaNode.links, Facet.additional.inj h]
  | properties | patternProperties => simp only [SchemaNode.links, Facet.named.inj h]
  | dependencies => simp only [SchemaNode.links, Facet.dependencies.inj h]
  | _ => rfl

theorem links_read_of_ne (h : (partly.read site keyword value).Yields (AtPlace located) next) (hne : other ≠ keyword)
    (hbase : other = .allOf → keyword ≠ .extending) : next.node.links other = partly.node.links other := by
  by_cases hshares : Shares keyword other
  · -- Neither divisors nor what is required leads to schemas.
    unfold Shares at hshares
    split at hshares
    · exact absurd rfl (hbase rfl)
    · rfl
    · rfl
    · exact hshares.elim
  · exact links_eq_of_facet ((keeps_read h).facet other (not_or.mpr ⟨Ne.symm hne, hshares⟩))

theorem leadsAlong_unnamed {places : List (List String)} {ids : List SchemaId}
    (h : List.Forall₂ (fun steps id => located (site.location.child steps) id) places ids) :
    List.Forall₂ (LeadsAlong located site.location keyword) places (SchemaNode.links.unnamed ids) := by
  rw [SchemaNode.links.unnamed, List.forall₂_map_right_iff]
  exact h.imp fun _ _ hlocated => ⟨fun _ hname => (nomatch hname), hlocated⟩

theorem leadsAlong_child {id : SchemaId} (h : (site.child keyword []).Yields (AtPlace located) id) :
    List.Forall₂ (LeadsAlong located site.location keyword) [[keyword.name]] [(none, id)] := by
  have hone : List.Forall₂ (fun steps id => located (site.location.child steps) id) [[keyword.name]] [id] :=
    .cons (yields_child.mp h) .nil
  exact leadsAlong_unnamed hone

theorem located_childList {ids : List SchemaId} (h : (site.childList keyword value).Yields (AtPlace located) ids) :
    List.Forall₂ (fun steps id => located (site.location.child steps) id) (keyword.indexed value) ids := by
  simp only [Site.childList, Inquiry.yields_bind, yields_expect, Inquiry.yields_mapM, yields_child] at h
  obtain ⟨items, hitems, hall⟩ := h
  rw [Keyword.indexed, hitems, Option.getD_some, List.forall₂_map_left_iff]
  exact hall

theorem leadsAlong_childMembers {named : Members SchemaId}
    (h : (site.childMembers keyword value).Yields (AtPlace located) named) :
    List.Forall₂ (LeadsAlong located site.location keyword) (keyword.named value)
      (named.map fun (name, schema) => (some name, schema)) := by
  simp only [Site.childMembers, Inquiry.yields_bind, yields_expect, Inquiry.yields_mapM, yields_child, Inquiry.pure_eq,
    Inquiry.yields_done] at h
  obtain ⟨members, hmembers, hall⟩ := h
  rw [Keyword.named, hmembers, Option.getD_some, List.forall₂_map_left_iff, List.forall₂_map_right_iff]
  refine hall.imp ?_
  rintro ⟨name, _⟩ _ ⟨id, hlocated, rfl⟩
  refine ⟨?_, hlocated⟩
  rintro _ ⟨⟩
  rfl

theorem leadsAlong_additional {more : Additional SchemaId}
    (h : (site.additional keyword value).Yields (AtPlace located) more) :
    List.Forall₂ (LeadsAlong located site.location keyword) (keyword.ifObject value)
      (SchemaNode.links.unnamed more.schemas) := by
  cases value with
  | bool valid =>
    cases valid <;> (obtain rfl := Inquiry.yields_done.mp h; exact .nil)
  | object members =>
    obtain ⟨id, hid, rfl⟩ := Inquiry.yields_bind_pure.mp h
    exact leadsAlong_child hid
  | _ => cases h

theorem leadsAlong_dependency {name : String} {dependency : Dependency SchemaId}
    (h : (site.dependency name value).Yields (AtPlace located) dependency) :
    List.Forall₂ (LeadsAlong located site.location .dependencies) (Keyword.dependency name value)
      (dependency.schemas.map fun schema => (some name, schema)) := by
  have hschema (hx : (do pure (.schema (← site.child .dependencies [name])) : Reading (Dependency SchemaId)).Yields
      (AtPlace located) dependency) : List.Forall₂ (LeadsAlong located site.location .dependencies)
        [[Keyword.dependencies.name, name]] (dependency.schemas.map fun schema => (some name, schema)) := by
    obtain ⟨id, hid, rfl⟩ := Inquiry.yields_bind_pure.mp hx
    refine .cons ⟨?_, yields_child.mp hid⟩ .nil
    rintro _ ⟨⟩
    rfl
  cases value with
  | string other =>
    obtain rfl := Inquiry.yields_done.mp h
    exact .nil
  | array others =>
    obtain ⟨names, _, rfl⟩ := Inquiry.yields_bind_pure.mp h
    exact .nil
  | bool | object => exact hschema h
  | _ => cases h

theorem leadsAlong_dependencies {members : Members Json} {dependencies : Members (Dependency SchemaId)}
    (hmembers : value.members? = some members)
    (h : (members.mapM fun (name, value) => do pure (name, ← site.dependency name value) :
      Reading (Members (Dependency SchemaId))).Yields (AtPlace located) dependencies) :
    List.Forall₂ (LeadsAlong located site.location .dependencies) (Keyword.dependencies.places value)
      (dependencies.flatMap fun (name, dependency) => dependency.schemas.map fun schema => (some name, schema)) := by
  rw [Inquiry.yields_mapM] at h
  rw [Keyword.places, hmembers, Option.getD_some]
  refine List.rel_flatMap h ?_
  rintro ⟨name, value⟩ _ hdependency
  obtain ⟨dependency, hyields, rfl⟩ := Inquiry.yields_bind_pure.mp hdependency
  exact leadsAlong_dependency hyields

/-- After the value of a keyword has been read, the node has the links to the schemas in it, in their order. -/
theorem links_read_self (h : (partly.read site keyword value).Yields (AtPlace located) next)
    (hbase : keyword ≠ .extending) :
    List.Forall₂ (LeadsAlong located site.location keyword) (keyword.places value) (next.node.links keyword) := by
  cases keyword with
  | extending => exact absurd rfl hbase
  | allOf | anyOf | oneOf =>
    obtain ⟨ids, hids, rfl⟩ := Inquiry.yields_bind_pure.mp h
    exact leadsAlong_unnamed (located_childList hids)
  | not | condition | consequence | alternative | contains | propertyNames =>
    obtain ⟨id, hid, rfl⟩ := Inquiry.yields_bind_pure.mp h
    exact leadsAlong_child hid
  | items =>
    cases value with
    | array =>
      obtain ⟨ids, hids, rfl⟩ := Inquiry.yields_bind_pure.mp h
      exact leadsAlong_unnamed (located_childList hids)
    | _ =>
      obtain ⟨id, hid, rfl⟩ := Inquiry.yields_bind_pure.mp h
      exact leadsAlong_child hid
  | additionalItems | additionalProperties =>
    obtain ⟨more, hmore, rfl⟩ := Inquiry.yields_bind_pure.mp h
    exact leadsAlong_additional hmore
  | properties | patternProperties =>
    obtain ⟨named, hnamed, rfl⟩ := Inquiry.yields_bind_pure.mp h
    exact leadsAlong_childMembers hnamed
  | dependencies =>
    obtain ⟨members, hmembers, hnext⟩ := Inquiry.yields_bind.mp h
    obtain ⟨dependencies, hall, rfl⟩ := Inquiry.yields_bind_pure.mp hnext
    exact leadsAlong_dependencies (yields_expect.mp hmembers) hall
  | _ => exact .nil

theorem links_read_extending (h : (partly.read site .extending value).Yields (AtPlace located) next) :
    ∃ more, next.node.links .allOf = partly.node.links .allOf ++ more ∧
      List.Forall₂ (LeadsAlong located site.location .allOf) (Keyword.extending.places value) more := by
  have hadd (parents : List SchemaId) :
      ({ partly.node with allOf := some (partly.node.allOf.getD [] ++ parents) } : SchemaNode).links .allOf =
        partly.node.links .allOf ++ SchemaNode.links.unnamed parents := by
    simp [SchemaNode.links, SchemaNode.links.unnamed]
  cases value with
  | array items =>
    obtain ⟨parents, hparents, rfl⟩ := Inquiry.yields_bind_pure.mp h
    exact ⟨_, hadd parents, leadsAlong_unnamed (located_childList hparents)⟩
  | _ =>
    obtain ⟨id, hid, rfl⟩ := Inquiry.yields_bind_pure.mp h
    exact ⟨_, hadd [id], leadsAlong_unnamed (.cons (yields_child.mp hid) .nil)⟩

variable {name : String} {members : Members Json} {last : UnfinishedNode}

theorem links_readMember_of_ne (h : (readMember site partly (name, value)).Yields (AtPlace located) next)
    (hne : keyword.name ≠ name) (hbase : keyword = .allOf → name ≠ Keyword.extending.name) :
    next.node.links keyword = partly.node.links keyword := by
  obtain ⟨other, rfl, hread⟩ | ⟨_, rfl⟩ := readMember_cases h
  · exact links_read_of_ne hread (fun heq => hne (heq ▸ rfl)) fun heq hextends => hbase heq (hextends ▸ rfl)
  · exact SchemaNode.links_eq_of_bare rfl keyword

theorem links_readMember_self (h : (readMember site partly (keyword.name, value)).Yields (AtPlace located) next)
    (hbase : keyword ≠ .extending) :
    List.Forall₂ (LeadsAlong located site.location keyword) (keyword.places value) (next.node.links keyword) := by
  simp only [readMember, Keyword.ofName?_name] at h
  exact links_read_self h hbase

theorem links_foldlM_of_not_mem (h : (members.foldlM (readMember site) partly).Yields (AtPlace located) last)
    (hname : keyword.name ∉ Members.names members)
    (hbase : keyword = .allOf → Keyword.extending.name ∉ Members.names members) :
    last.node.links keyword = partly.node.links keyword := by
  refine h.foldlM (motive := fun mid => mid.node.links keyword = partly.node.links keyword) rfl ?_
  rintro ⟨name, value⟩ hmem mid next hmid hmember
  have hnamed : name ∈ Members.names members := List.mem_map.mpr ⟨_, hmem, rfl⟩
  refine (links_readMember_of_ne hmember ?_ fun heq => ?_).trans hmid
  · rintro rfl
    exact hname hnamed
  · rintro rfl
    exact hbase heq hnamed

theorem exists_yields_readMember {before after : Members Json} {member : String × Json}
    (h : ((before ++ member :: after).foldlM (readMember site) partly).Yields (AtPlace located) last) :
    ∃ first second : UnfinishedNode, (readMember site first member).Yields (AtPlace located) second ∧
      (after.foldlM (readMember site) second).Yields (AtPlace located) last := by
  rw [List.foldlM_append] at h
  obtain ⟨first, _, h⟩ := Inquiry.yields_bind.mp h
  rw [List.foldlM_cons] at h
  obtain ⟨second, hmember, hafter⟩ := Inquiry.yields_bind.mp h
  exact ⟨first, second, hmember, hafter⟩

theorem links_foldlM (h : (members.foldlM (readMember site) partly).Yields (AtPlace located) last)
    (hnodup : (Members.names members).Nodup) (hmem : (keyword.name, value) ∈ members) (hall : keyword ≠ .allOf)
    (hbase : keyword ≠ .extending) :
    List.Forall₂ (LeadsAlong located site.location keyword) (keyword.places value) (last.node.links keyword) := by
  obtain ⟨before, after, rfl⟩ := List.append_of_mem hmem
  obtain ⟨_, mid, hmid, hafter⟩ := exists_yields_readMember h
  have hnew : keyword.name ∉ Members.names after := by
    simp only [Members.names, List.map_append, List.map_cons, List.nodup_append, List.nodup_cons] at hnodup
    exact hnodup.2.1.1
  rw [links_foldlM_of_not_mem hafter hnew fun heq => absurd heq hall]
  exact links_readMember_self hmid hbase

end UnfinishedNode

def parentPlaces (members : Members Json) : List (List String) :=
  ((Members.find? members Keyword.extending.name).map Keyword.extending.places).getD []

namespace UnfinishedNode

variable {located : Location → SchemaId → Prop} {site : Site} {partly last : UnfinishedNode} {members : Members Json}

/-- Without `allOf`, parents are added to what is there. -/
theorem links_foldlM_parents (h : (members.foldlM (readMember site) partly).Yields (AtPlace located) last)
    (hnodup : (Members.names members).Nodup) (hname : Keyword.allOf.name ∉ Members.names members) :
    ∃ more, last.node.links .allOf = partly.node.links .allOf ++ more ∧
      List.Forall₂ (LeadsAlong located site.location .allOf) (parentPlaces members) more := by
  induction members generalizing partly with
  | nil =>
    obtain rfl := Inquiry.yields_done.mp h
    exact ⟨[], by simp, .nil⟩
  | cons member rest ih =>
    obtain ⟨name, value⟩ := member
    rw [List.foldlM_cons] at h
    obtain ⟨mid, hmid, hrest⟩ := Inquiry.yields_bind.mp h
    simp only [Members.names, List.map_cons, List.mem_cons, not_or, List.nodup_cons] at hname hnodup
    by_cases hparents : name = Keyword.extending.name
    · subst hparents
      simp only [readMember, Keyword.ofName?_name] at hmid
      obtain ⟨more, hmore, hleads⟩ := links_read_extending hmid
      refine ⟨more, ?_, by simpa [parentPlaces, Members.find?] using hleads⟩
      rw [← hmore]
      exact links_foldlM_of_not_mem hrest hname.2 fun _ => hnodup.1
    · obtain ⟨more, hmore, hleads⟩ := ih hrest hnodup.2 hname.2
      refine ⟨more, ?_, by simpa [parentPlaces, Members.find?, hparents] using hleads⟩
      rw [hmore, links_readMember_of_ne hmid hname.1 fun _ => hparents]

/-- The links of `allOf` take the place of those of parents before it, and those of parents after it are added. -/
theorem links_foldlM_bases {before after : Members Json} {value : Json}
    (h : ((before ++ (Keyword.allOf.name, value) :: after).foldlM (readMember site) partly).Yields
      (AtPlace located) last)
    (hnodup : (Members.names (before ++ (Keyword.allOf.name, value) :: after)).Nodup) :
    List.Forall₂ (LeadsAlong located site.location .allOf) (Keyword.allOf.places value ++ parentPlaces after)
      (last.node.links .allOf) := by
  obtain ⟨_, mid, hmid, hafter⟩ := exists_yields_readMember h
  simp only [Members.names, List.map_append, List.map_cons, List.nodup_append, List.nodup_cons] at hnodup
  obtain ⟨more, hmore, hleads⟩ := links_foldlM_parents hafter hnodup.2.1.2 hnodup.2.1.1
  rw [hmore]
  exact List.rel_append (links_readMember_self hmid (by simp)) hleads

theorem links_finish (partly : UnfinishedNode) (keyword : Keyword) :
    partly.finish.links keyword = partly.node.links keyword := by
  refine SchemaNode.links_eq_of_bare ?_ keyword
  simp only [finish]
  repeat' split
  all_goals rfl

end UnfinishedNode

open UnfinishedNode

/-- A node has the links of an object with some members, keyword by keyword. -/
structure Mirrors (located : Location → SchemaId → Prop) (location : Location) (members : Members Json)
    (node : SchemaNode) : Prop where
  /-- All schemas in the value of a keyword, in document order. -/
  links : ∀ (keyword : Keyword) (value : Json), (keyword.name, value) ∈ members →
    keyword ≠ .allOf → keyword ≠ .extending →
    List.Forall₂ (LeadsAlong located location keyword) (keyword.places value) (node.links keyword)
  absent : ∀ keyword : Keyword, keyword.name ∉ Members.names members → keyword ≠ .allOf → node.links keyword = []
  /-- Parents, where there is no `allOf`. -/
  parents : Keyword.allOf.name ∉ Members.names members →
    List.Forall₂ (LeadsAlong located location .allOf) (parentPlaces members) (node.links .allOf)
  /-- The members of `allOf`, and the parents that are named after it. -/
  bases : ∀ before value after, members = before ++ (Keyword.allOf.name, value) :: after →
    List.Forall₂ (LeadsAlong located location .allOf) (Keyword.allOf.places value ++ parentPlaces after)
      (node.links .allOf)

theorem mirrors_of_readObject {located : Location → SchemaId → Prop} {location : Location} {members : Members Json}
    {inherited : Option String} {node : SchemaNode}
    (h : (readObject location members inherited).Yields (AtPlace located) node)
    (hnodup : (Members.names members).Nodup) : Mirrors located location members node := by
  obtain ⟨version, _, last, hlast, rfl⟩ := yields_readObject.mp h
  have hstart (keyword : Keyword) : ({ version := version } : SchemaNode).links keyword = [] := by
    cases keyword <;> rfl
  refine ⟨?_, ?_, ?_, ?_⟩
  · intro keyword value hmem hall hbase
    rw [links_finish]
    exact links_foldlM hlast hnodup hmem hall hbase
  · intro keyword hname hall
    rw [links_finish, links_foldlM_of_not_mem hlast hname fun heq => absurd heq hall]
    exact hstart keyword
  · intro hname
    obtain ⟨more, hmore, hleads⟩ := links_foldlM_parents hlast hnodup hname
    rw [links_finish, hmore, hstart]
    exact hleads
  · rintro before value after rfl
    rw [links_finish]
    exact links_foldlM_bases hlast hnodup

end JsonSchema
