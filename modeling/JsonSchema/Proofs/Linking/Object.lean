import JsonSchema.Linking.Node
import JsonSchema.Proofs.Equality
import JsonSchema.Proofs.Inquiry

/-!
The faults of reading one schema object. They point at the object, and what they say of it is so. None of its keywords
finds a circular reference: that is left to the places inside of the object.
-/
namespace JsonSchema

namespace Json

def Has (value : Json) (name : String) (part : Json) : Prop :=
  ∃ members, value = .object members ∧ (name, part) ∈ members

def NamesType (name : String) (types : Json) : Prop :=
  types = .string name ∨ ∃ names, types = .array names ∧ .string name ∈ names

end Json

namespace ReadError

/-- Faults other than a circular reference. -/
def IsPlain (error : ReadError) : Prop := ∀ reference pointer, error ≠ .circularReference reference pointer

def pointer : ReadError → String
  | notASchema pointer _ => pointer
  | invalidKeyword _ pointer _ => pointer
  | unknownType _ pointer => pointer
  | unknownContentEncoding _ pointer => pointer
  | unsupportedKeyword _ pointer => pointer
  | unresolvedReference _ pointer => pointer
  | circularReference _ pointer => pointer
  | invalidPointer pointer => pointer

/-- What a fault says of a value is so. A pointer that is none says nothing of any value. -/
def HoldsOf : ReadError → Json → Prop
  | notASchema _ found, value =>
    found = .ofValue value ∧ (∀ valid, value ≠ .bool valid) ∧ ∀ members, value ≠ .object members
  | invalidKeyword keyword _ _, value => ∃ part, value.Has keyword.name part
  | unknownType name _, value => ∃ types, value.Has Keyword.type.name types ∧ types.NamesType name
  | unknownContentEncoding encoding _, value => value.Has Keyword.contentEncoding.name (.string encoding)
  | unsupportedKeyword keyword _, value => ∃ part, value.Has keyword.name part
  | unresolvedReference reference _, value => value.Has Keyword.reference.name (.string reference)
  | circularReference reference _, value => value.Has Keyword.reference.name (.string reference)
  | invalidPointer _, _ => False

/-- A fault in the members of an object that stands where the fault points. -/
structure IsOwn (place : String) (members : Members Json) (error : ReadError) : Prop where
  plain : error.IsPlain
  pointer : error.pointer = place
  holds : error.HoldsOf (.object members)

variable {place : String} {members : Members Json} {keyword : Keyword} {value : Json}

theorem isOwn_invalidKeyword (h : (keyword.name, value) ∈ members) (expected : Expectation) :
    (invalidKeyword keyword place expected).IsOwn place members :=
  ⟨fun _ _ => ReadError.noConfusion, rfl, value, members, rfl, h⟩

theorem isOwn_unsupportedKeyword (h : (keyword.name, value) ∈ members) :
    (unsupportedKeyword keyword place).IsOwn place members :=
  ⟨fun _ _ => ReadError.noConfusion, rfl, value, members, rfl, h⟩

theorem isOwn_unknownContentEncoding {encoding : String}
    (h : (Keyword.contentEncoding.name, .string encoding) ∈ members) :
    (unknownContentEncoding encoding place).IsOwn place members :=
  ⟨fun _ _ => ReadError.noConfusion, rfl, members, rfl, h⟩

theorem isOwn_unknownType {name : String} (h : (Keyword.type.name, value) ∈ members) (hname : value.NamesType name) :
    (unknownType name place).IsOwn place members :=
  ⟨fun _ _ => ReadError.noConfusion, rfl, value, ⟨members, rfl, h⟩, hname⟩

end ReadError

namespace TypeSet

variable {pointer : String} {error : ReadError}

theorem error_of_named {name : String} (h : named pointer name = .error error) : error = .unknownType name pointer := by
  unfold named at h
  split at h
  · cases h
  · cases h
    rfl

theorem error_of_namedAll {types : TypeSet} {names : List Json} (h : namedAll pointer types names = .error error) :
    (∃ name, .string name ∈ names ∧ error = .unknownType name pointer) ∨
      error = .invalidKeyword .type pointer .typeNames := by
  induction names generalizing types with
  | nil => cases h
  | cons head rest ih =>
    cases head with
    | string name =>
      simp only [namedAll] at h
      cases hname : named pointer name with
      | error other =>
        simp only [hname, bind, Except.bind, Except.error.injEq] at h
        exact .inl ⟨name, by simp, h ▸ error_of_named hname⟩
      | ok more =>
        simp only [hname, bind, Except.bind] at h
        rcases ih h with ⟨other, hmem, herror⟩ | herror
        · exact .inl ⟨other, List.mem_cons_of_mem _ hmem, herror⟩
        · exact .inr herror
    | _ =>
      cases h
      exact .inr rfl

theorem isOwn_of_ofJson {members : Members Json} {value : Json} (hmem : (Keyword.type.name, value) ∈ members)
    (h : ofJson pointer value = .error error) : error.IsOwn pointer members := by
  cases value with
  | string name =>
    rw [error_of_named h]
    exact ReadError.isOwn_unknownType hmem (.inl rfl)
  | array names =>
    rcases error_of_namedAll h with ⟨name, hname, rfl⟩ | rfl
    · exact ReadError.isOwn_unknownType hmem (.inr ⟨names, rfl, hname⟩)
    · exact ReadError.isOwn_invalidKeyword hmem _
  | _ =>
    cases h
    exact ReadError.isOwn_invalidKeyword hmem _

end TypeSet

namespace Site

variable {α : Type} {site : Site} {members : Members Json} {keyword : Keyword} {value : Json}

theorem failsOnly_expect (hmem : (keyword.name, value) ∈ members) (expected : Expectation) (result : Option α) :
    (site.expect keyword expected result).FailsOnly (ReadError.IsOwn site.pointer members) := by
  cases result with
  | none => exact ReadError.isOwn_invalidKeyword hmem expected
  | some result => trivial

theorem failsOnly_child (keyword : Keyword) (steps : List String) :
    (site.child keyword steps).FailsOnly (ReadError.IsOwn site.pointer members) := Inquiry.failsOnly_answer _

theorem failsOnly_childList (hmem : (keyword.name, value) ∈ members) :
    (site.childList keyword value).FailsOnly (ReadError.IsOwn site.pointer members) := by
  refine Inquiry.failsOnly_bind (failsOnly_expect hmem _ _) fun _ => ?_
  exact Inquiry.failsOnly_mapM fun _ _ => failsOnly_child _ _

theorem failsOnly_childMembers (hmem : (keyword.name, value) ∈ members) :
    (site.childMembers keyword value).FailsOnly (ReadError.IsOwn site.pointer members) := by
  refine Inquiry.failsOnly_bind (failsOnly_expect hmem _ _) fun _ => Inquiry.failsOnly_mapM fun _ _ => ?_
  exact Inquiry.failsOnly_bind (failsOnly_child _ _) fun _ => trivial

theorem failsOnly_additional (hmem : (keyword.name, value) ∈ members) :
    (site.additional keyword value).FailsOnly (ReadError.IsOwn site.pointer members) := by
  unfold additional
  split
  · trivial
  · trivial
  · exact Inquiry.failsOnly_bind (failsOnly_child _ _) fun _ => trivial
  · exact failsOnly_expect hmem _ _

theorem failsOnly_dependency (hmem : (Keyword.dependencies.name, value) ∈ members) (name : String) (other : Json) :
    (site.dependency name other).FailsOnly (ReadError.IsOwn site.pointer members) := by
  unfold dependency
  split
  · trivial
  · exact Inquiry.failsOnly_bind (failsOnly_expect hmem _ _) fun _ => trivial
  · exact Inquiry.failsOnly_bind (failsOnly_child _ _) fun _ => trivial
  · exact Inquiry.failsOnly_bind (failsOnly_child _ _) fun _ => trivial
  · exact failsOnly_expect hmem _ _

end Site

namespace UnfinishedNode

open Inquiry Site

variable {site : Site} {members : Members Json} {keyword : Keyword} {value : Json}

theorem failsOnly_readDivisor (hmem : (keyword.name, value) ∈ members) (partly : UnfinishedNode) :
    (read.readDivisor partly site value keyword).FailsOnly (ReadError.IsOwn site.pointer members) := by
  refine failsOnly_bind ?_ fun _ => failsOnly_bind (failsOnly_expect hmem _ _) fun _ => trivial
  exact failsOnly_bind (failsOnly_expect hmem _ _) fun _ => trivial

theorem failsOnly_contentEncoding (hmem : (Keyword.contentEncoding.name, value) ∈ members) (partly : UnfinishedNode) :
    (partly.read site .contentEncoding value).FailsOnly (ReadError.IsOwn site.pointer members) := by
  cases value with
  | string encoding =>
    simp only [read, Json.string?, Site.expect, pure_bind]
    split
    · trivial
    · exact ReadError.isOwn_unknownContentEncoding hmem
  | _ => exact ReadError.isOwn_invalidKeyword hmem _

theorem failsOnly_required (hmem : (Keyword.required.name, value) ∈ members) (partly : UnfinishedNode) :
    (partly.read site .required value).FailsOnly (ReadError.IsOwn site.pointer members) := by
  cases value with
  | bool =>
    simp only [read]
    split
    · trivial
    · exact failsOnly_expect hmem _ _
  | _ => exact failsOnly_bind (failsOnly_expect hmem _ _) fun _ => trivial

theorem failsOnly_dependencies (hmem : (Keyword.dependencies.name, value) ∈ members) (partly : UnfinishedNode) :
    (partly.read site .dependencies value).FailsOnly (ReadError.IsOwn site.pointer members) := by
  refine failsOnly_bind (failsOnly_expect hmem _ _) fun _ => ?_
  refine failsOnly_bind (failsOnly_mapM fun _ _ => ?_) fun _ => trivial
  exact failsOnly_bind (failsOnly_dependency hmem _ _) fun _ => trivial

theorem failsOnly_read (hmem : (keyword.name, value) ∈ members) (partly : UnfinishedNode) :
    (partly.read site keyword value).FailsOnly (ReadError.IsOwn site.pointer members) := by
  have hexpect {α β : Type} {expected : Expectation} {read : Option α} {f : α → β} :
      (do pure (f (← site.expect keyword expected read))).FailsOnly (ReadError.IsOwn site.pointer members) :=
    failsOnly_bind (failsOnly_expect hmem _ _) fun _ => trivial
  have hchild {β : Type} {f : SchemaId → β} :
      (do pure (f (← site.child keyword []))).FailsOnly (ReadError.IsOwn site.pointer members) :=
    failsOnly_bind (failsOnly_child _ _) fun _ => trivial
  have hlist {β : Type} {f : List SchemaId → β} :
      (do pure (f (← site.childList keyword value))).FailsOnly (ReadError.IsOwn site.pointer members) :=
    failsOnly_bind (failsOnly_childList hmem) fun _ => trivial
  cases keyword with
  | id => cases value <;> trivial
  | extending | items =>
    cases value with
    | array => exact hlist
    | _ => exact hchild
  | type => exact failsOnly_bind (failsOnly_ofExcept fun _ => TypeSet.isOwn_of_ofJson hmem) fun _ => trivial
  | disallow => exact ReadError.isOwn_unsupportedKeyword hmem
  | exclusiveMinimum | exclusiveMaximum =>
    cases value with
    | bool => trivial
    | _ => exact hexpect
  | multipleOf | divisibleBy => exact failsOnly_readDivisor hmem _
  | contentEncoding => exact failsOnly_contentEncoding hmem partly
  | required => exact failsOnly_required hmem partly
  | dependencies => exact failsOnly_dependencies hmem partly
  | allOf | anyOf | oneOf => exact hlist
  | not | condition | consequence | alternative | contains | propertyNames => exact hchild
  | properties | patternProperties => exact failsOnly_bind (failsOnly_childMembers hmem) fun _ => trivial
  | additionalItems | additionalProperties => exact failsOnly_bind (failsOnly_additional hmem) fun _ => trivial
  | schema | reference | default | const => trivial
  | _ => exact hexpect

end UnfinishedNode

theorem failsOnly_readObject (location : Location) (members : Members Json) (inherited : Option String) :
    (readObject location members inherited).FailsOnly (ReadError.IsOwn location.pointer members) := by
  refine Inquiry.failsOnly_bind ?_ fun version => Inquiry.failsOnly_bind (Inquiry.failsOnly_foldlM ?_) fun _ => trivial
  · unfold versionAt
    split
    · trivial
    · rename_i value _ hfind
      have hmem : (Keyword.schema.name, value) ∈ members := Members.mem_of_find? hfind
      exact ReadError.isOwn_invalidKeyword hmem _
    · trivial
  · rintro partly ⟨name, value⟩ hmem
    simp only [readMember]
    cases hname : Keyword.ofName? name with
    | none => trivial
    | some keyword =>
      have hmem' : (keyword.name, value) ∈ members := by rwa [Keyword.name_of_ofName? hname]
      exact @UnfinishedNode.failsOnly_read ⟨location, version⟩ members keyword value hmem' partly

end JsonSchema
