import JsonSchema.Proofs.Linking.Fields
import JsonSchema.Proofs.Linking.Questions
import JsonSchema.Proofs.Rewriting

/-!
Reading a schema object whose members are in another order. What can be read one way can be read the other way, and
leaves a node with the same fields; only the order of what is kept by name may differ.
-/
namespace JsonSchema

namespace Site

open Inquiry

variable {fits : Visit → SchemaId → Prop} {site site' : Site} {keyword : Keyword} {value value' : Json}

/-- A computation with no faults of its own. -/
abbrev Sure {α : Type} (x : Reading α) : Prop := x.FailsOnly fun _ => False

theorem sure_expect {α β : Type} {expected : Expectation} {result : Option α} {read : α} {other : Option β}
    (h : (site.expect keyword expected result).Yields fits read) (hsome : result.isSome → other.isSome) :
    Sure (site'.expect keyword expected other) := by
  cases result with
  | none => cases h
  | some value =>
    obtain ⟨found, rfl⟩ := Option.isSome_iff_exists.mp (hsome rfl)
    trivial

theorem sure_expect_of_eq {α : Type} {expected : Expectation} {result result' : Option α} {read : α}
    (heq : result = result') (h : (site.expect keyword expected result).Yields fits read) :
    Sure (site'.expect keyword expected result') :=
  sure_expect h fun hsome => heq ▸ hsome

theorem sure_child (keyword : Keyword) (steps : List String) : Sure (site.child keyword steps) := failsOnly_answer _

theorem isSome_items? (h : value.Reordered value') : value.items?.isSome → value'.items?.isSome := by
  rw [isSome_eq_of_optionRel h.items?]
  exact id

theorem isSome_members? (h : value.Reordered value') : value.members?.isSome → value'.members?.isSome := by
  rw [isSome_eq_of_optionRel h.members?]
  exact id

theorem sure_childList {ids : List SchemaId} (hvalue : value.Reordered value')
    (h : (site.childList keyword value).Yields fits ids) : Sure (site'.childList keyword value') := by
  obtain ⟨_, hitems, _⟩ := yields_bind.mp h
  refine failsOnly_bind (sure_expect hitems (isSome_items? hvalue)) fun _ => ?_
  exact failsOnly_mapM fun _ _ => sure_child _ _

theorem sure_childMembers {named : Members SchemaId} (hvalue : value.Reordered value')
    (h : (site.childMembers keyword value).Yields fits named) : Sure (site'.childMembers keyword value') := by
  obtain ⟨_, hmembers, _⟩ := yields_bind.mp h
  refine failsOnly_bind (sure_expect hmembers (isSome_members? hvalue)) fun _ => failsOnly_mapM fun _ _ => ?_
  exact failsOnly_bind (sure_child _ _) fun _ => trivial

theorem sure_additional {more : Additional SchemaId} (hvalue : value.Reordered value')
    (h : (site.additional keyword value).Yields fits more) : Sure (site'.additional keyword value') := by
  cases hvalue.shape with
  | scalar =>
    cases value with
    | bool valid => cases valid <;> trivial
    | object members => exact failsOnly_bind (sure_child _ _) fun _ => trivial
    | _ => cases h
  | array => cases h
  | object => exact failsOnly_bind (sure_child _ _) fun _ => trivial

theorem sure_dependency {dependency : Dependency SchemaId} (hvalue : value.Reordered value') {name : String}
    (h : (site.dependency name value).Yields fits dependency) (other : String) :
    Sure (site'.dependency other value') := by
  cases hvalue.shape with
  | scalar =>
    cases value with
    | string => trivial
    | bool | object => exact failsOnly_bind (sure_child _ _) fun _ => trivial
    | array items =>
      obtain ⟨_, hstrings, _⟩ := yields_bind.mp h
      exact failsOnly_bind (sure_expect hstrings fun hsome => hsome) fun _ => trivial
    | _ => cases h
  | @array items items' _ =>
    obtain ⟨_, hstrings, _⟩ := yields_bind.mp h
    exact failsOnly_bind (sure_expect_of_eq hvalue.strings?_eq hstrings) fun _ => trivial
  | object => exact failsOnly_bind (sure_child _ _) fun _ => trivial

end Site

namespace UnfinishedNode

open Inquiry Site

variable {fits : Visit → SchemaId → Prop} {site site' : Site} {partly next : UnfinishedNode} {keyword : Keyword}
  {value value' : Json}

theorem sure_of_read {α α' β : Type} {x : Reading α} {y : Reading α'} {f : α → β} {read : β} {f' : α' → UnfinishedNode}
    (hsure : ∀ a, x.Yields fits a → Sure y) (h : (do pure (f (← x)) : Reading β).Yields fits read) :
    Sure (do pure (f' (← y))) := by
  obtain ⟨a, ha, _⟩ := yields_bind_pure.mp h
  exact failsOnly_bind (hsure a ha) fun _ => trivial

section Keywords

variable (hvalue : value.Reordered value') (other : UnfinishedNode)

include hvalue

theorem sure_type (h : (partly.read site .type value).Yields fits next) : Sure (other.read site' .type value') := by
  obtain ⟨types, htypes, _⟩ := yields_bind_pure.mp h
  refine failsOnly_bind (failsOnly_ofExcept fun error herror => ?_) fun _ => trivial
  rw [TypeSet.ofJson_reordered hvalue (yields_ofExcept.mp htypes)] at herror
  cases herror

theorem sure_divisor (h : (read.readDivisor partly site value keyword).Yields fits next) :
    Sure (read.readDivisor other site' value' keyword) := by
  obtain ⟨_, hnumber, hrest⟩ := yields_bind.mp h
  obtain ⟨_, hnumber, _⟩ := yields_bind_pure.mp hnumber
  refine failsOnly_bind (failsOnly_bind ?_ fun _ => trivial) fun _ => ?_
  · exact sure_expect_of_eq hvalue.binary64?_eq hnumber
  · exact sure_of_read (fun _ => sure_expect_of_eq hvalue.divisor?_eq) hrest

theorem sure_contentEncoding (h : (partly.read site .contentEncoding value).Yields fits next) :
    Sure (other.read site' .contentEncoding value') := by
  simp only [read, hvalue.string?_eq] at h ⊢
  cases hstring : value'.string? with
  | none => simp [hstring, Site.expect] at h
  | some encoding =>
    simp only [hstring, Site.expect, pure_bind] at h ⊢
    split
    · trivial
    · rename_i hencoding
      simp [hencoding] at h

/-- A mark counts in draft 3 only. -/
theorem sure_required (h : (partly.read site .required value).Yields fits next)
    (hdraft : site.draft = some .draft3 → site'.draft = some .draft3) : Sure (other.read site' .required value') := by
  cases hvalue.shape with
  | scalar =>
    cases value with
    | bool =>
      simp only [read] at h ⊢
      split at h
      · rw [if_pos (hdraft ‹_›)]
        trivial
      · cases h
    | _ => exact sure_of_read (fun _ => sure_expect_of_eq rfl) h
  | array => exact sure_of_read (fun _ => sure_expect_of_eq hvalue.strings?_eq) h
  | object => exact sure_of_read (fun _ => sure_expect_of_eq rfl) h

theorem sure_dependencies (h : (partly.read site .dependencies value).Yields fits next) :
    Sure (other.read site' .dependencies value') := by
  cases hvalue.shape with
  | scalar _ hobject =>
    cases value with
    | object members => exact absurd rfl (hobject members)
    | _ => cases h
  | array => cases h
  | @object members members' hentries =>
    obtain ⟨_, hall, _⟩ := yields_bind_pure.mp h
    rw [yields_mapM] at hall
    simp only [read, Json.members?, Site.expect, pure_bind]
    refine failsOnly_bind (failsOnly_mapM fun member hmem => ?_) fun _ => trivial
    obtain ⟨name, dependency'⟩ := member
    obtain ⟨dependency, hmem', hdependency⟩ := hentries.entries.right name dependency' hmem
    obtain ⟨_, _, hyields⟩ := Check.exists_right_of_forall₂ hall hmem'
    obtain ⟨_, hread, _⟩ := yields_bind_pure.mp hyields
    exact failsOnly_bind (sure_dependency hdependency hread name) fun _ => trivial

end Keywords

/-- What can be read can be read with its members in another order. -/
theorem sure_read (h : (partly.read site keyword value).Yields fits next) (hvalue : value.Reordered value')
    (hdraft : site.draft = some .draft3 → site'.draft = some .draft3) (other : UnfinishedNode) :
    Sure (other.read site' keyword value') := by
  cases keyword with
  | schema | reference | default | const => trivial
  | id => cases value' <;> trivial
  | dollarId | title | description | format | pattern | contentMediaType =>
    exact sure_of_read (fun _ => sure_expect_of_eq hvalue.string?_eq) h
  | readOnly | writeOnly | uniqueItems => exact sure_of_read (fun _ => sure_expect_of_eq hvalue.bool?_eq) h
  | minimum | maximum => exact sure_of_read (fun _ => sure_expect_of_eq hvalue.binary64?_eq) h
  | minLength | maxLength | minItems | maxItems | minProperties | maxProperties =>
    exact sure_of_read (fun _ => sure_expect_of_eq hvalue.count?_eq) h
  | allOf | anyOf | oneOf => exact sure_of_read (fun _ => sure_childList hvalue) h
  | not | condition | consequence | alternative | contains | propertyNames =>
    exact failsOnly_bind (sure_child _ _) fun _ => trivial
  | properties | patternProperties => exact sure_of_read (fun _ => sure_childMembers hvalue) h
  | additionalItems | additionalProperties => exact sure_of_read (fun _ => sure_additional hvalue) h
  | disallow => cases h
  | enum => exact sure_of_read (fun _ hitems => sure_expect hitems (isSome_items? hvalue)) h
  | type => exact sure_type hvalue other h
  | exclusiveMinimum | exclusiveMaximum =>
    cases hvalue.shape with
    | scalar =>
      cases value with
      | bool => trivial
      | _ => exact sure_of_read (fun _ => sure_expect_of_eq rfl) h
    | array => exact sure_of_read (fun _ => sure_expect_of_eq rfl) h
    | object => exact sure_of_read (fun _ => sure_expect_of_eq rfl) h
  | multipleOf | divisibleBy => exact sure_divisor hvalue other h
  | contentEncoding => exact sure_contentEncoding hvalue other h
  | items | extending =>
    cases hvalue.shape with
    | scalar =>
      cases value with
      | array => exact sure_of_read (fun _ => sure_childList hvalue) h
      | _ => exact failsOnly_bind (sure_child _ _) fun _ => trivial
    | array => exact sure_of_read (fun _ => sure_childList hvalue) h
    | object => exact failsOnly_bind (sure_child _ _) fun _ => trivial
  | required => exact sure_required hvalue other h hdraft
  | dependencies => exact sure_dependencies hvalue other h

theorem sure_readMember {name : String} (h : (readMember site partly (name, value)).Yields fits next)
    (hvalue : value.Reordered value') (hdraft : site.draft = some .draft3 → site'.draft = some .draft3)
    (other : UnfinishedNode) : Sure (readMember site' other (name, value')) := by
  simp only [readMember] at h ⊢
  cases hname : Keyword.ofName? name with
  | none => trivial
  | some keyword =>
    rw [hname] at h
    exact sure_read h hvalue hdraft other

end UnfinishedNode

open UnfinishedNode in
theorem sure_readObject {located : Location → SchemaId → Prop} {location location' : Location}
    {members members' : Members Json} {inherited inherited' : Option String} {node : SchemaNode}
    (h : (readObject location members inherited).Yields (AtPlace located) node)
    (hmembers : Check.AlikeMembers Json.Reordered members members')
    (hdraft : (siteVersion members inherited).bind Draft.ofUri? = some .draft3 →
      (siteVersion members' inherited').bind Draft.ofUri? = some .draft3) :
    Site.Sure (readObject location' members' inherited') := by
  obtain ⟨version, hversion, last, hlast, _⟩ := yields_readObject.mp h
  obtain rfl := yields_versionAt hversion
  have hread (version : Option String) (hversion : version = siteVersion members' inherited') :
      Site.Sure (do
        let partly ← members'.foldlM (readMember ⟨location', version⟩) { node := { version := version } }
        pure partly.finish : Reading SchemaNode) := by
    subst hversion
    refine Inquiry.failsOnly_bind (Inquiry.failsOnly_foldlM ?_) fun _ => trivial
    rintro partly ⟨name, value'⟩ hmem
    obtain ⟨value, hmem', hvalue⟩ := hmembers.entries.right name value' hmem
    obtain ⟨before, after, rfl⟩ := List.append_of_mem hmem'
    obtain ⟨_, _, hyields, _⟩ := exists_yields_readMember hlast
    refine sure_readMember hyields hvalue ?_ partly
    exact hdraft
  have hfind := hmembers.find? Keyword.schema.name
  unfold readObject versionAt
  unfold siteVersion at hread
  unfold versionAt at hversion
  generalize Members.find? members Keyword.schema.name = first at hfind hversion
  generalize Members.find? members' Keyword.schema.name = second at hfind hread ⊢
  cases hfind with
  | none => exact hread inherited' rfl
  | @some value value' hvalue =>
    have hstring := hvalue.string?_eq
    cases value with
    | string version =>
      cases value' with
      | string version' => exact hread _ rfl
      | _ => cases hstring
    | _ => cases hversion

end JsonSchema
