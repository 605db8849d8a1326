import JsonSchema.Proofs.Linking.Reordering

/-!
Nodes that say the same. Two schema objects with the same members, in whatever order, leave nodes that agree field by
field, as far as the nodes of the schemas inside of them agree.
-/
namespace JsonSchema

inductive Items.Agrees (agree : SchemaId → SchemaId → Prop) : Items SchemaId → Items SchemaId → Prop
  | every {id other : SchemaId} : agree id other → Items.Agrees agree (.every id) (.every other)
  | tuple {ids others : List SchemaId} : List.Forall₂ agree ids others → Items.Agrees agree (.tuple ids) (.tuple others)

/-- Two fields say the same about nodes that agree; what is kept by name may be in another order. -/
def Facet.Agrees (agree : SchemaId → SchemaId → Prop) : Facet → Facet → Prop
  | .nothing, .nothing => True
  | .schemas a, .schemas b => Option.Rel (List.Forall₂ agree) a b
  | .schema a, .schema b => Option.Rel agree a b
  | .value a, .value b => Option.Rel Json.Reordered a b
  | .values a, .values b => Option.Rel (List.Forall₂ Json.Reordered) a b
  | .types a, .types b => a = b
  | .bound a, .bound b => a = b
  | .exclusive a above, .exclusive b above' => a = b ∧ above = above'
  | .count a, .count b => a = b
  | .text a, .text b => a = b
  | .flag a, .flag b => a = b
  | .items a, .items b => Option.Rel (Items.Agrees agree) a b
  | .additional a, .additional b => Check.RestAgrees agree a b
  | .named a, .named b => Check.SameEntries agree a b
  | .names a, .names b => ∀ name, name ∈ a ↔ name ∈ b
  | .dependencies a, .dependencies b => Check.SameEntries (Check.DependencyAgrees agree) a b
  | _, _ => False

theorem forall₂_of_common {α β γ : Type} {r : α → β → Prop} {s : α → γ → Prop} {t : β → γ → Prop} {as : List α}
    {bs : List β} {cs : List γ} (h : List.Forall₂ r as bs) (h' : List.Forall₂ s as cs)
    (ht : ∀ a b c, r a b → s a c → t b c) : List.Forall₂ t bs cs := by
  induction h generalizing cs with
  | nil =>
    cases h'
    exact .nil
  | cons hab _ ih =>
    cases h' with
    | cons hac hrest => exact .cons (ht _ _ _ hab hac) (ih hrest)

namespace Keyword

variable {value value' : Json} {steps : List String}

theorem indexed_reordered (keyword : Keyword) (h : value.Reordered value') :
    keyword.indexed value = keyword.indexed value' := by
  have hitems := h.items?
  unfold indexed
  generalize value.items? = first at hitems
  generalize value'.items? = second at hitems
  cases hitems with
  | none => rfl
  | some hall => rw [Option.getD_some, Option.getD_some, hall.length_eq]

theorem mem_places_reordered {keyword : Keyword} (h : value.Reordered value') (hsteps : steps ∈ keyword.places value) :
    steps ∈ keyword.places value' := by
  have hnamed (hmem : steps ∈ keyword.named value) : steps ∈ keyword.named value' := by
    obtain ⟨⟨name, part⟩, hpart, rfl⟩ := List.mem_map.mp hmem
    obtain ⟨part', hpart', _⟩ := h.exists_member hpart
    exact List.mem_map.mpr ⟨_, hpart', rfl⟩
  have hindexed (hmem : steps ∈ keyword.indexed value) : steps ∈ keyword.indexed value' := by
    rwa [← indexed_reordered keyword h]
  have hobject (hmem : steps ∈ keyword.ifObject value) : steps ∈ keyword.ifObject value' := by
    cases h.shape with
    | scalar => exact hmem
    | array => cases hmem
    | object => exact hmem
  have hdependency {name : String} {part part' : Json} (h : part.Reordered part')
      (hmem : steps ∈ dependency name part) : steps ∈ dependency name part' := by
    cases h.shape with
    | scalar => exact hmem
    | array => cases hmem
    | object => exact hmem
  cases keyword with
  | allOf | anyOf | oneOf => exact hindexed hsteps
  | extending | items =>
    cases h.shape with
    | scalar => exact hsteps
    | array => exact hindexed hsteps
    | object => exact hsteps
  | additionalItems | additionalProperties => exact hobject hsteps
  | properties | patternProperties => exact hnamed hsteps
  | dependencies =>
    obtain ⟨⟨name, part⟩, hpart, hmem⟩ := List.mem_flatMap.mp hsteps
    obtain ⟨part', hpart', hsame⟩ := h.exists_member hpart
    exact List.mem_flatMap.mpr ⟨_, hpart', hdependency hsame hmem⟩
  | _ => exact hsteps

end Keyword

namespace UnfinishedNode

open Inquiry

theorem sameEntries_mapM {α β : Type} {fits fits' : Visit → SchemaId → Prop} {rel : α → β → Prop}
    {members members' : Members Json} {f : String → Json → Reading α} {g : String → Json → Reading β}
    {entries : Members α} {entries' : Members β} (hmembers : Check.AlikeMembers Json.Reordered members members')
    (h : (members.mapM fun (name, part) => do pure (name, ← f name part) : Reading (Members α)).Yields fits entries)
    (h' : (members'.mapM fun (name, part) => do pure (name, ← g name part) : Reading (Members β)).Yields fits'
      entries')
    (hone : ∀ name part part' a b, part.Reordered part' → (f name part).Yields fits a →
      (g name part').Yields fits' b → rel a b) : Check.SameEntries rel entries entries' := by
  rw [yields_mapM] at h h'
  constructor
  · intro name a hmem
    obtain ⟨⟨_, part⟩, hpart, hread⟩ := Check.exists_of_forall₂_of_mem h hmem
    obtain ⟨_, ha, ⟨⟩⟩ := yields_bind_pure.mp hread
    obtain ⟨part', hpart', hsame⟩ := hmembers.entries.left _ part hpart
    obtain ⟨entry, hentry, hread'⟩ := Check.exists_right_of_forall₂ h' hpart'
    obtain ⟨b, hb, rfl⟩ := yields_bind_pure.mp hread'
    exact ⟨b, hentry, hone _ part part' a b hsame ha hb⟩
  · intro name b hmem
    obtain ⟨⟨_, part'⟩, hpart', hread'⟩ := Check.exists_of_forall₂_of_mem h' hmem
    obtain ⟨_, hb, ⟨⟩⟩ := yields_bind_pure.mp hread'
    obtain ⟨part, hpart, hsame⟩ := hmembers.entries.right _ part' hpart'
    obtain ⟨entry, hentry, hread⟩ := Check.exists_right_of_forall₂ h hpart
    obtain ⟨a, ha, rfl⟩ := yields_bind_pure.mp hread
    exact ⟨a, hentry, hone _ part part' a b hsame ha hb⟩

section Reading

variable {located located' : Location → SchemaId → Prop} {site site' : Site} {agree : SchemaId → SchemaId → Prop}
  {partly partly' next next' : UnfinishedNode} {keyword writer : Keyword} {value value' : Json}
  (hagree : ∀ steps id other, located (site.location.child steps) id → located' (site'.location.child steps) other →
    agree id other)

theorem same_of_expect {α : Type} {expected : Expectation} {result result' : Option α} {f f' : α → UnfinishedNode}
    (heq : result = result')
    (h : (do pure (f (← site.expect writer expected result))).Yields (AtPlace located) next)
    (h' : (do pure (f' (← site'.expect writer expected result'))).Yields (AtPlace located') next') :
    ∃ a, next = f a ∧ next' = f' a := by
  obtain ⟨a, ha, rfl⟩ := yields_bind_pure.mp h
  obtain ⟨a', ha', rfl⟩ := yields_bind_pure.mp h'
  rw [yields_expect] at ha ha'
  obtain rfl : a = a' := Option.some.inj (ha.symm.trans (heq.trans ha'))
  exact ⟨a, rfl, rfl⟩

theorem same_divisor (hvalue : value.Reordered value')
    (h : (read.readDivisor partly site value writer).Yields (AtPlace located) next)
    (h' : (read.readDivisor partly' site' value' writer).Yields (AtPlace located') next') :
    next.node.multipleOf = next'.node.multipleOf := by
  obtain ⟨_, _, hrest⟩ := yields_bind.mp h
  obtain ⟨_, _, hrest'⟩ := yields_bind.mp h'
  obtain ⟨divisor, rfl, rfl⟩ := same_of_expect hvalue.divisor?_eq hrest hrest'
  rfl

theorem agree_enum (hvalue : value.Reordered value')
    (h : (partly.read site .enum value).Yields (AtPlace located) next)
    (h' : (partly'.read site' .enum value').Yields (AtPlace located') next') :
    Option.Rel (List.Forall₂ Json.Reordered) next.node.enumValues next'.node.enumValues := by
  obtain ⟨values, hread, rfl⟩ := yields_bind_pure.mp h
  obtain ⟨values', hread', rfl⟩ := yields_bind_pure.mp h'
  rw [yields_expect] at hread hread'
  have hitems := hvalue.items?
  rwa [hread, hread'] at hitems

theorem same_types (hvalue : value.Reordered value')
    (h : (partly.read site .type value).Yields (AtPlace located) next)
    (h' : (partly'.read site' .type value').Yields (AtPlace located') next') : next.node.types = next'.node.types := by
  obtain ⟨types, hread, rfl⟩ := yields_bind_pure.mp h
  obtain ⟨types', hread', rfl⟩ := yields_bind_pure.mp h'
  have hsame := TypeSet.ofJson_reordered hvalue (yields_ofExcept.mp hread) site'.pointer
  obtain rfl : types = types' := Except.ok.inj (hsame.symm.trans (yields_ofExcept.mp hread'))
  rfl

/-- Base64 is the only encoding that can be read. -/
theorem same_contentEncoding (h : (partly.read site .contentEncoding value).Yields (AtPlace located) next)
    (h' : (partly'.read site' .contentEncoding value').Yields (AtPlace located') next') :
    next.node.base64 = next'.node.base64 := by
  obtain ⟨_, _, hrest⟩ := yields_bind.mp h
  obtain ⟨_, _, hrest'⟩ := yields_bind.mp h'
  split at hrest
  · split at hrest'
    · cases hrest
      cases hrest'
      rfl
    · cases hrest'
  · cases hrest

/-- Each of the two keywords is a flag in some drafts and a bound in the others, and leaves alone what it is not. -/
theorem agrees_exclusive (hvalue : value.Reordered value')
    (hkeyword : keyword = .exclusiveMinimum ∨ keyword = .exclusiveMaximum)
    (h : (partly.read site keyword value).Yields (AtPlace located) next)
    (h' : (partly'.read site' keyword value').Yields (AtPlace located') next')
    (hbefore : Facet.Agrees agree (partly.facet keyword) (partly'.facet keyword)) :
    Facet.Agrees agree (next.facet keyword) (next'.facet keyword) := by
  rcases hkeyword with rfl | rfl
  all_goals
    cases hvalue.shape with
    | scalar =>
      cases value with
      | bool =>
        cases h
        cases h'
        exact ⟨rfl, hbefore.2⟩
      | _ =>
        obtain ⟨bound, rfl, rfl⟩ := same_of_expect rfl h h'
        exact ⟨hbefore.1, rfl⟩
    | array =>
      obtain ⟨bound, rfl, rfl⟩ := same_of_expect rfl h h'
      exact ⟨hbefore.1, rfl⟩
    | object =>
      obtain ⟨bound, rfl, rfl⟩ := same_of_expect rfl h h'
      exact ⟨hbefore.1, rfl⟩

include hagree

theorem agree_child {steps : List String} {id other : SchemaId}
    (h : (site.child keyword steps).Yields (AtPlace located) id)
    (h' : (site'.child keyword steps).Yields (AtPlace located') other) : agree id other :=
  hagree _ id other (yields_child.mp h) (yields_child.mp h')

theorem agree_childList (hvalue : value.Reordered value') {ids others : List SchemaId}
    (h : (site.childList keyword value).Yields (AtPlace located) ids)
    (h' : (site'.childList keyword value').Yields (AtPlace located') others) : List.Forall₂ agree ids others := by
  have hplaces := keyword.indexed_reordered hvalue
  exact forall₂_of_common (located_childList h) (hplaces ▸ located_childList h') fun steps => hagree steps

theorem agree_childMembers (hvalue : value.Reordered value') {named others : Members SchemaId}
    (h : (site.childMembers keyword value).Yields (AtPlace located) named)
    (h' : (site'.childMembers keyword value').Yields (AtPlace located') others) :
    Check.SameEntries agree named others := by
  obtain ⟨members, hmembers, hall⟩ := yields_bind.mp h
  obtain ⟨members', hmembers', hall'⟩ := yields_bind.mp h'
  rw [yields_expect] at hmembers hmembers'
  have hentries := hvalue.members?
  rw [hmembers, hmembers'] at hentries
  obtain ⟨hsame⟩ := hentries
  exact sameEntries_mapM (f := fun name _ => site.child keyword [name]) (g := fun name _ => site'.child keyword [name])
    hsame hall hall' fun _ _ _ _ _ _ hid hother => agree_child hagree hid hother

theorem agree_additional (hvalue : value.Reordered value') {more other : Additional SchemaId}
    (h : (site.additional keyword value).Yields (AtPlace located) more)
    (h' : (site'.additional keyword value').Yields (AtPlace located') other) : Check.RestAgrees agree more other := by
  cases hvalue.shape with
  | scalar _ hobject =>
    cases value with
    | bool valid =>
      cases valid with
      | false =>
        cases h
        cases h'
        exact .forbidden
      | true =>
        cases h
        cases h'
        exact .allowed
    | object members => exact absurd rfl (hobject members)
    | _ => cases h
  | array => cases h
  | object =>
    obtain ⟨id, hid, rfl⟩ := yields_bind_pure.mp h
    obtain ⟨other, hother, rfl⟩ := yields_bind_pure.mp h'
    exact .schema (agree_child hagree hid hother)

theorem agree_dependency (hvalue : value.Reordered value') {name : String} {dependency other : Dependency SchemaId}
    (h : (site.dependency name value).Yields (AtPlace located) dependency)
    (h' : (site'.dependency name value').Yields (AtPlace located') other) :
    Check.DependencyAgrees agree dependency other := by
  cases hvalue.shape with
  | scalar harray hobject =>
    cases value with
    | string =>
      cases h
      cases h'
      exact .names _
    | bool =>
      obtain ⟨id, hid, rfl⟩ := yields_bind_pure.mp h
      obtain ⟨other, hother, rfl⟩ := yields_bind_pure.mp h'
      exact .schema (agree_child hagree hid hother)
    | array items => exact absurd rfl (harray items)
    | object members => exact absurd rfl (hobject members)
    | _ => cases h
  | array =>
    obtain ⟨names, hnames, rfl⟩ := yields_bind_pure.mp h
    obtain ⟨names', hnames', rfl⟩ := yields_bind_pure.mp h'
    rw [yields_expect] at hnames hnames'
    obtain rfl : names = names' := Option.some.inj (hnames.symm.trans (hvalue.strings?_eq.trans hnames'))
    exact .names names
  | object =>
    obtain ⟨id, hid, rfl⟩ := yields_bind_pure.mp h
    obtain ⟨other, hother, rfl⟩ := yields_bind_pure.mp h'
    exact .schema (agree_child hagree hid hother)

theorem agree_of_child {f f' : SchemaId → UnfinishedNode}
    (h : (do pure (f (← site.child writer []))).Yields (AtPlace located) next)
    (h' : (do pure (f' (← site'.child writer []))).Yields (AtPlace located') next') :
    ∃ id other, agree id other ∧ next = f id ∧ next' = f' other := by
  obtain ⟨id, hid, rfl⟩ := yields_bind_pure.mp h
  obtain ⟨other, hother, rfl⟩ := yields_bind_pure.mp h'
  exact ⟨id, other, agree_child hagree hid hother, rfl, rfl⟩

theorem agree_of_childList (hvalue : value.Reordered value') {f f' : List SchemaId → UnfinishedNode}
    (h : (do pure (f (← site.childList writer value))).Yields (AtPlace located) next)
    (h' : (do pure (f' (← site'.childList writer value'))).Yields (AtPlace located') next') :
    ∃ ids others, List.Forall₂ agree ids others ∧ next = f ids ∧ next' = f' others := by
  obtain ⟨ids, hids, rfl⟩ := yields_bind_pure.mp h
  obtain ⟨others, hothers, rfl⟩ := yields_bind_pure.mp h'
  exact ⟨ids, others, agree_childList hagree hvalue hids hothers, rfl, rfl⟩

theorem agree_items (hvalue : value.Reordered value')
    (h : (partly.read site .items value).Yields (AtPlace located) next)
    (h' : (partly'.read site' .items value').Yields (AtPlace located') next') :
    Option.Rel (Items.Agrees agree) next.node.items next'.node.items := by
  cases hvalue.shape with
  | scalar harray _ =>
    cases value with
    | array items => exact absurd rfl (harray items)
    | _ =>
      obtain ⟨id, other, hid, rfl, rfl⟩ := agree_of_child hagree h h'
      exact Option.Rel.some (.every hid)
  | array =>
    obtain ⟨ids, others, hall, rfl, rfl⟩ := agree_of_childList hagree hvalue h h'
    exact Option.Rel.some (.tuple hall)
  | object =>
    obtain ⟨id, other, hid, rfl, rfl⟩ := agree_of_child hagree h h'
    exact Option.Rel.some (.every hid)

theorem agree_dependencies (hvalue : value.Reordered value')
    (h : (partly.read site .dependencies value).Yields (AtPlace located) next)
    (h' : (partly'.read site' .dependencies value').Yields (AtPlace located') next') :
    Check.SameEntries (Check.DependencyAgrees agree) next.node.dependencies next'.node.dependencies := by
  obtain ⟨members, hmembers, hrest⟩ := yields_bind.mp h
  obtain ⟨members', hmembers', hrest'⟩ := yields_bind.mp h'
  rw [yields_expect] at hmembers hmembers'
  have hentries := hvalue.members?
  rw [hmembers, hmembers'] at hentries
  obtain ⟨hsame⟩ := hentries
  obtain ⟨found, hall, rfl⟩ := yields_bind_pure.mp hrest
  obtain ⟨found', hall', rfl⟩ := yields_bind_pure.mp hrest'
  exact sameEntries_mapM hsame hall hall' fun _ _ _ _ _ hpart hread hread' =>
    agree_dependency hagree hpart hread hread'

/-- What a keyword leaves in its own fields agrees. -/
theorem agrees_read_self (hvalue : value.Reordered value')
    (h : (partly.read site keyword value).Yields (AtPlace located) next)
    (h' : (partly'.read site' keyword value').Yields (AtPlace located') next') (hrequired : keyword ≠ .required)
    (hbefore : Facet.Agrees agree (partly.facet keyword) (partly'.facet keyword)) :
    Facet.Agrees agree (next.facet keyword) (next'.facet keyword) := by
  cases keyword with
  | allOf | anyOf | oneOf =>
    obtain ⟨ids, others, hall, rfl, rfl⟩ := agree_of_childList hagree hvalue h h'
    exact Option.Rel.some hall
  | not | condition | consequence | alternative | contains | propertyNames =>
    obtain ⟨id, other, hid, rfl, rfl⟩ := agree_of_child hagree h h'
    exact Option.Rel.some hid
  | const =>
    cases h
    cases h'
    exact Option.Rel.some hvalue
  | enum => exact agree_enum hvalue h h'
  | type => exact same_types hvalue h h'
  | minimum | maximum =>
    obtain ⟨bound, rfl, rfl⟩ := same_of_expect hvalue.binary64?_eq h h'
    rfl
  | exclusiveMinimum | exclusiveMaximum => exact agrees_exclusive hvalue (by simp) h h' hbefore
  | multipleOf => exact same_divisor hvalue h h'
  | minLength | maxLength | minItems | maxItems | minProperties | maxProperties =>
    obtain ⟨count, rfl, rfl⟩ := same_of_expect hvalue.count?_eq h h'
    rfl
  | pattern | contentMediaType =>
    obtain ⟨text, rfl, rfl⟩ := same_of_expect hvalue.string?_eq h h'
    rfl
  | uniqueItems =>
    obtain ⟨flag, rfl, rfl⟩ := same_of_expect hvalue.bool?_eq h h'
    rfl
  | contentEncoding => exact same_contentEncoding h h'
  | items => exact agree_items hagree hvalue h h'
  | additionalItems | additionalProperties =>
    obtain ⟨more, hread, rfl⟩ := yields_bind_pure.mp h
    obtain ⟨other, hread', rfl⟩ := yields_bind_pure.mp h'
    exact agree_additional hagree hvalue hread hread'
  | properties | patternProperties =>
    obtain ⟨named, hread, rfl⟩ := yields_bind_pure.mp h
    obtain ⟨others, hread', rfl⟩ := yields_bind_pure.mp h'
    exact agree_childMembers hagree hvalue hread hread'
  | dependencies => exact agree_dependencies hagree hvalue h h'
  | required => exact absurd rfl hrequired
  | _ => trivial

theorem agree_read_extending (hvalue : value.Reordered value')
    (h : (partly.read site .extending value).Yields (AtPlace located) next)
    (h' : (partly'.read site' .extending value').Yields (AtPlace located') next')
    (hbefore : Option.Rel (List.Forall₂ agree) partly.node.allOf partly'.node.allOf) :
    Option.Rel (List.Forall₂ agree) next.node.allOf next'.node.allOf := by
  have hafter {ids others : List SchemaId} (hall : List.Forall₂ agree ids others) :
      Option.Rel (List.Forall₂ agree) (some (partly.node.allOf.getD [] ++ ids))
        (some (partly'.node.allOf.getD [] ++ others)) := by
    refine .some (List.rel_append ?_ hall)
    generalize partly.node.allOf = old at hbefore
    generalize partly'.node.allOf = old' at hbefore
    cases hbefore with
    | none => exact .nil
    | some hids => exact hids
  have hone {id other : SchemaId} (hid : agree id other) : List.Forall₂ agree [id] [other] := .cons hid .nil
  cases hvalue.shape with
  | scalar harray _ =>
    cases value with
    | array items => exact absurd rfl (harray items)
    | _ =>
      obtain ⟨id, other, hid, rfl, rfl⟩ := agree_of_child hagree h h'
      exact hafter (hone hid)
  | array =>
    obtain ⟨ids, others, hall, rfl, rfl⟩ := agree_of_childList hagree hvalue h h'
    exact hafter hall
  | object =>
    obtain ⟨id, other, hid, rfl, rfl⟩ := agree_of_child hagree h h'
    exact hafter (hone hid)

/-- Reading a keyword leaves fields that agree, but for the names that it adds to what is required. -/
theorem agrees_read (hvalue : value.Reordered value')
    (h : (partly.read site writer value).Yields (AtPlace located) next)
    (h' : (partly'.read site' writer value').Yields (AtPlace located') next')
    (hwriter : Writes writer keyword) (hrequired : keyword ≠ .required)
    (hbefore : Facet.Agrees agree (partly.facet keyword) (partly'.facet keyword)) :
    Facet.Agrees agree (next.facet keyword) (next'.facet keyword) := by
  rcases hwriter with rfl | hshares
  · exact agrees_read_self hagree hvalue h h' hrequired hbefore
  · unfold Shares at hshares
    split at hshares
    · exact agree_read_extending hagree hvalue h h' hbefore
    · exact same_divisor hvalue h h'
    · exact absurd rfl hrequired
    · exact hshares.elim

end Reading

end UnfinishedNode

end JsonSchema
