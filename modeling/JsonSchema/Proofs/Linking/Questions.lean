import JsonSchema.Proofs.Linking.Links

/-!
What reading a schema object asks for: the schemas in the values of its keywords, each at its place and under the draft
that applies to the object.
-/
namespace JsonSchema

/-- A schema in the value of a keyword. -/
def Site.Asks (site : Site) (keyword : Keyword) (value : Json) (visit : Visit) : Prop :=
  ∃ steps ∈ keyword.places value, visit = ⟨site.location.child steps, site.version⟩

/-- The draft address that applies to a schema object, if its own is in order. -/
def siteVersion (members : Members Json) (inherited : Option String) : Option String :=
  match Members.find? members Keyword.schema.name with
  | some (.string version) => some version
  | _ => inherited

theorem yields_versionAt {fits : Visit → SchemaId → Prop} {location : Location} {members : Members Json}
    {inherited version : Option String} (h : (versionAt location members inherited).Yields fits version) :
    version = siteVersion members inherited := by
  unfold versionAt at h
  unfold siteVersion
  cases hfind : Members.find? members Keyword.schema.name with
  | none => simpa [hfind] using h
  | some value => cases value <;> simp_all

namespace Site

open Inquiry

variable {site : Site} {keyword : Keyword} {value : Json}

theorem asksOnly_expect {α : Type} {asked : Visit → Prop} (expected : Expectation) (result : Option α) :
    (site.expect keyword expected result).AsksOnly asked := by
  cases result <;> trivial

theorem asksOnly_child {steps : List String} (h : keyword.name :: steps ∈ keyword.places value) :
    (site.child keyword steps).AsksOnly (site.Asks keyword value) :=
  asksOnly_answer ⟨_, h, rfl⟩

theorem asksOnly_childList (h : keyword.places value = keyword.indexed value) :
    (site.childList keyword value).AsksOnly (site.Asks keyword value) := by
  unfold childList
  cases hitems : value.items? with
  | none => trivial
  | some items =>
    refine asksOnly_mapM fun i hi => asksOnly_child ?_
    rw [h, Keyword.indexed, hitems]
    exact List.mem_map.mpr ⟨i, hi, rfl⟩

theorem asksOnly_childMembers (h : keyword.places value = keyword.named value) :
    (site.childMembers keyword value).AsksOnly (site.Asks keyword value) := by
  unfold childMembers
  cases hmembers : value.members? with
  | none => trivial
  | some members =>
    refine asksOnly_mapM fun member hmem => asksOnly_bind (asksOnly_child ?_) fun _ => trivial
    rw [h, Keyword.named, hmembers]
    exact List.mem_map.mpr ⟨member, hmem, rfl⟩

theorem asksOnly_additional (h : keyword.places value = keyword.ifObject value) :
    (site.additional keyword value).AsksOnly (site.Asks keyword value) := by
  cases value with
  | bool valid => cases valid <;> trivial
  | object members => exact asksOnly_bind (asksOnly_child (by simp [h, Keyword.ifObject])) fun _ => trivial
  | _ => trivial

theorem asksOnly_dependency {name : String} (other : Json)
    (h : ∀ steps ∈ Keyword.dependency name other, steps ∈ Keyword.dependencies.places value) :
    (site.dependency name other).AsksOnly (site.Asks .dependencies value) := by
  cases other with
  | array others => exact asksOnly_bind (asksOnly_expect _ _) fun _ => trivial
  | bool | object => exact asksOnly_bind (asksOnly_child (h _ (by simp [Keyword.dependency]))) fun _ => trivial
  | _ => trivial

end Site

namespace UnfinishedNode

open Inquiry Site

variable {site : Site} {keyword : Keyword} {value : Json}

theorem asksOnly_readDivisor (partly : UnfinishedNode) :
    (read.readDivisor partly site value keyword).AsksOnly (site.Asks keyword value) := by
  refine asksOnly_bind (asksOnly_bind (asksOnly_expect _ _) fun _ => trivial) fun _ => ?_
  exact asksOnly_bind (asksOnly_expect _ _) fun _ => trivial

theorem asksOnly_required (partly : UnfinishedNode) :
    (partly.read site .required value).AsksOnly (site.Asks .required value) := by
  cases value with
  | bool =>
    simp only [read]
    split
    · trivial
    · exact asksOnly_expect _ _
  | _ => exact asksOnly_bind (asksOnly_expect _ _) fun _ => trivial

theorem asksOnly_dependencies (partly : UnfinishedNode) :
    (partly.read site .dependencies value).AsksOnly (site.Asks .dependencies value) := by
  simp only [read]
  cases hfound : value.members? with
  | none => trivial
  | some members =>
    simp only [Site.expect, pure_bind]
    refine asksOnly_bind (asksOnly_mapM fun member hmem => ?_) fun _ => trivial
    refine asksOnly_bind (asksOnly_dependency member.2 fun steps hsteps => ?_) fun _ => trivial
    simp only [Keyword.places, hfound, Option.getD_some]
    exact List.mem_flatMap.mpr ⟨member, hmem, hsteps⟩

theorem asksOnly_read (partly : UnfinishedNode) :
    (partly.read site keyword value).AsksOnly (site.Asks keyword value) := by
  have hexpect {α β : Type} {expected : Expectation} {read : Option α} {f : α → β} :
      (do pure (f (← site.expect keyword expected read))).AsksOnly (site.Asks keyword value) :=
    asksOnly_bind (asksOnly_expect _ _) fun _ => trivial
  have hchild {β : Type} {f : SchemaId → β} (h : keyword.places value = [[keyword.name]]) :
      (do pure (f (← site.child keyword []))).AsksOnly (site.Asks keyword value) :=
    asksOnly_bind (asksOnly_child (by simp [h])) fun _ => trivial
  have hlist {β : Type} {f : List SchemaId → β} (h : keyword.places value = keyword.indexed value) :
      (do pure (f (← site.childList keyword value))).AsksOnly (site.Asks keyword value) :=
    asksOnly_bind (asksOnly_childList h) fun _ => trivial
  cases keyword with
  | id => cases value <;> trivial
  | extending | items =>
    cases value with
    | array => exact hlist rfl
    | _ => exact hchild rfl
  | type => exact asksOnly_bind (asksOnly_ofExcept _) fun _ => trivial
  | disallow => trivial
  | exclusiveMinimum | exclusiveMaximum =>
    cases value with
    | bool => trivial
    | _ => exact hexpect
  | multipleOf | divisibleBy => exact asksOnly_readDivisor partly
  | contentEncoding =>
    refine asksOnly_bind (asksOnly_expect _ _) fun _ => ?_
    split <;> trivial
  | required => exact asksOnly_required partly
  | dependencies => exact asksOnly_dependencies partly
  | allOf | anyOf | oneOf => exact hlist rfl
  | not | condition | consequence | alternative | contains | propertyNames => exact hchild rfl
  | properties | patternProperties => exact asksOnly_bind (asksOnly_childMembers rfl) fun _ => trivial
  | additionalItems | additionalProperties => exact asksOnly_bind (asksOnly_additional rfl) fun _ => trivial
  | schema | reference | default | const => trivial
  | _ => exact hexpect

end UnfinishedNode

/-- Reading an object asks for the schemas in the values of its keywords. -/
theorem asksOnly_readObject (location : Location) (members : Members Json) (inherited : Option String) :
    (readObject location members inherited).AsksOnly fun visit =>
      ∃ (keyword : Keyword) (value : Json), (keyword.name, value) ∈ members ∧
        Site.Asks ⟨location, siteVersion members inherited⟩ keyword value visit := by
  have hread (version : Option String) : (do
      let partly ← members.foldlM (readMember ⟨location, version⟩) { node := { version := version } }
      pure partly.finish : Reading SchemaNode).AsksOnly fun visit => ∃ (keyword : Keyword) (value : Json),
        (keyword.name, value) ∈ members ∧ Site.Asks ⟨location, version⟩ keyword value visit := by
    refine Inquiry.asksOnly_bind (Inquiry.asksOnly_foldlM ?_) fun _ => trivial
    rintro partly ⟨name, value⟩ hmem
    simp only [readMember]
    cases hname : Keyword.ofName? name with
    | none => trivial
    | some keyword =>
      refine (UnfinishedNode.asksOnly_read partly).mono fun visit hasks => ⟨keyword, value, ?_, hasks⟩
      rwa [Keyword.name_of_ofName? hname]
  unfold readObject versionAt siteVersion
  cases Members.find? members Keyword.schema.name with
  | none => exact hread inherited
  | some value =>
    cases value with
    | string version => exact hread (some version)
    | _ => trivial

end JsonSchema
