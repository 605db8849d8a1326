import JsonSchema.Linking.Node
import JsonSchema.Proofs.Inquiry

/-!
What the keywords leave in a node. Every keyword has fields of its own, which no other keyword touches; only `extends`
writes where `allOf` does, `divisibleBy` where `multipleOf` does, and `properties` adds to what is required.
-/
namespace JsonSchema

inductive Facet where
  | nothing
  | schemas (schemas : Option (List SchemaId))
  | schema (schema : Option SchemaId)
  | value (value : Option Json)
  | values (values : Option (List Json))
  | types (types : Option TypeSet)
  | bound (bound : Option Binary64)
  | exclusive (flag : Bool) (bound : Option Binary64)
  | count (count : Option Nat)
  | text (text : Option String)
  | flag (flag : Bool)
  | items (items : Option (Items SchemaId))
  | additional (more : Additional SchemaId)
  | named (members : Members SchemaId)
  | names (names : List String)
  | dependencies (dependencies : Members (Dependency SchemaId))

namespace UnfinishedNode

/-- What a node has of a keyword, as far as it bears on validation. The schemas of `extends` are among those of `allOf`,
and what `divisibleBy` says is said by `multipleOf`. -/
def facet (partly : UnfinishedNode) : Keyword → Facet
  | .allOf => .schemas partly.node.allOf
  | .anyOf => .schemas partly.node.anyOf
  | .oneOf => .schemas partly.node.oneOf
  | .not => .schema partly.node.not
  | .condition => .schema partly.node.condition
  | .consequence => .schema partly.node.consequence
  | .alternative => .schema partly.node.alternative
  | .const => .value partly.node.constValue
  | .enum => .values partly.node.enumValues
  | .type => .types partly.node.types
  | .minimum => .bound partly.node.minimum
  | .maximum => .bound partly.node.maximum
  | .exclusiveMinimum => .exclusive partly.node.exclusiveMinimum partly.above
  | .exclusiveMaximum => .exclusive partly.node.exclusiveMaximum partly.below
  | .multipleOf => .bound partly.node.multipleOf
  | .minLength => .count partly.node.minLength
  | .maxLength => .count partly.node.maxLength
  | .pattern => .text partly.node.pattern
  | .contentEncoding => .flag partly.node.base64
  | .contentMediaType => .text partly.node.mediaType
  | .items => .items partly.node.items
  | .additionalItems => .additional partly.node.additionalItems
  | .contains => .schema partly.node.contains
  | .minItems => .count partly.node.minItems
  | .maxItems => .count partly.node.maxItems
  | .uniqueItems => .flag partly.node.uniqueItems
  | .properties => .named partly.node.properties
  | .patternProperties => .named partly.node.patternProperties
  | .additionalProperties => .additional partly.node.additionalProperties
  | .propertyNames => .schema partly.node.propertyNames
  | .required => .names partly.node.required
  | .dependencies => .dependencies partly.node.dependencies
  | .minProperties => .count partly.node.minProperties
  | .maxProperties => .count partly.node.maxProperties
  | _ => .nothing

/-- A keyword writes what is kept under another one. -/
def Shares : Keyword → Keyword → Prop
  | .extending, .allOf => True
  | .divisibleBy, .multipleOf => True
  | .properties, .required => True
  | _, _ => False

theorem Shares.mem {writer keyword : Keyword} (h : Shares writer keyword) :
    keyword ∈ [Keyword.allOf, .multipleOf, .required] := by
  unfold Shares at h
  split at h
  · simp
  · simp
  · simp
  · exact h.elim

abbrev Writes (writer keyword : Keyword) : Prop := writer = keyword ∨ Shares writer keyword

/-- All is as it was but for the fields that a keyword writes. -/
structure Keeps (writer : Keyword) (partly next : UnfinishedNode) : Prop where
  /-- Whether a schema is a boolean one, and its draft address, are settled before any keyword is read. -/
  valid : next.node.valid = partly.node.valid
  version : next.node.version = partly.node.version
  facet : ∀ keyword, ¬Writes writer keyword → next.facet keyword = partly.facet keyword

variable {fits : Visit → SchemaId → Prop} {site : Site} {partly next : UnfinishedNode} {writer : Keyword}
  {name : String} {value : Json}

theorem facet_extend (partly : UnfinishedNode) (name : String) (value : Json) (keyword : Keyword) :
    (partly.extend name value).facet keyword = partly.facet keyword := by
  cases keyword <;> rfl

theorem keeps_extend (writer : Keyword) (partly : UnfinishedNode) (name : String) (value : Json) :
    Keeps writer partly (partly.extend name value) :=
  ⟨rfl, rfl, fun keyword _ => facet_extend partly name value keyword⟩

theorem keeps_of_bind {α : Type} {x : Reading α} {f : α → UnfinishedNode}
    (hx : (do pure (f (← x))).Yields fits next) (hf : ∀ a, Keeps writer partly (f a)) : Keeps writer partly next := by
  obtain ⟨a, _, rfl⟩ := Inquiry.yields_bind_pure.mp hx
  exact hf a

theorem keeps_of_pure {last : UnfinishedNode} (hx : (pure last : Reading UnfinishedNode).Yields fits next)
    (hlast : Keeps writer partly last) : Keeps writer partly next := by
  obtain rfl := Inquiry.yields_done.mp hx
  exact hlast

theorem keeps_id (h : (partly.read site .id value).Yields fits next) : Keeps .id partly next := by
  cases value with
  | string id =>
    refine keeps_of_pure h ?_
    split
    · exact ⟨rfl, rfl, fun keyword _ => by cases keyword <;> rfl⟩
    · exact keeps_extend _ _ _ _
  | _ => exact keeps_of_pure h (keeps_extend _ _ _ _)

theorem keeps_contentEncoding (h : (partly.read site .contentEncoding value).Yields fits next) :
    Keeps .contentEncoding partly next := by
  obtain ⟨encoding, _, hnext⟩ := Inquiry.yields_bind.mp h
  split at hnext
  · refine keeps_of_pure hnext ⟨rfl, rfl, fun keyword hnot => ?_⟩
    cases keyword <;> first | rfl | exact absurd (.inl rfl) hnot
  · cases hnext

theorem keeps_required (h : (partly.read site .required value).Yields fits next) : Keeps .required partly next := by
  cases value with
  | bool =>
    simp only [read] at h
    split at h
    · exact keeps_of_pure h ⟨rfl, rfl, fun _ _ => rfl⟩
    · cases h
  | _ =>
    refine keeps_of_bind h fun _ => ⟨rfl, rfl, fun keyword hnot => ?_⟩
    cases keyword <;> first | rfl | exact absurd (.inl rfl) hnot

theorem keeps_items (h : (partly.read site .items value).Yields fits next) : Keeps .items partly next := by
  have hitems (items : Items SchemaId) : Keeps .items partly { partly with node.items := some items } := by
    refine ⟨rfl, rfl, fun keyword hnot => ?_⟩
    cases keyword <;> first | rfl | exact absurd (.inl rfl) hnot
  cases value with
  | array => exact keeps_of_bind h fun _ => hitems _
  | _ => exact keeps_of_bind h fun _ => hitems _

theorem keeps_extending (h : (partly.read site .extending value).Yields fits next) : Keeps .extending partly next := by
  have hparents (ids : List SchemaId) : Keeps .extending partly { partly with node.allOf := some ids } := by
    refine ⟨rfl, rfl, fun keyword hnot => ?_⟩
    cases keyword <;> first | rfl | exact absurd (.inr trivial) hnot
  cases value with
  | array => exact keeps_of_bind h fun _ => hparents _
  | _ => exact keeps_of_bind h fun _ => hparents _

/-- Reading the value of a keyword leaves everything else as it is. -/
theorem keeps_read (h : (partly.read site writer value).Yields fits next) : Keeps writer partly next := by
  -- Of the fields that a case does not write, each is literally the same.
  cases writer with
  | schema => exact keeps_of_pure h ⟨rfl, rfl, fun _ _ => rfl⟩
  | reference => exact keeps_of_pure h (keeps_extend _ _ _ _)
  | default | const =>
    refine keeps_of_pure h ⟨rfl, rfl, fun keyword hnot => ?_⟩
    cases keyword <;> first | rfl | exact absurd (.inl rfl) hnot
  | id => exact keeps_id h
  | exclusiveMinimum | exclusiveMaximum =>
    cases value with
    | bool =>
      refine keeps_of_pure h ⟨rfl, rfl, fun keyword hnot => ?_⟩
      cases keyword <;> first | rfl | exact absurd (.inl rfl) hnot
    | _ =>
      refine keeps_of_bind h fun _ => ⟨rfl, rfl, fun keyword hnot => ?_⟩
      cases keyword <;> first | rfl | exact absurd (.inl rfl) hnot
  | disallow => cases h
  | multipleOf | divisibleBy | dependencies =>
    obtain ⟨_, _, hnext⟩ := Inquiry.yields_bind.mp h
    refine keeps_of_bind hnext fun _ => ⟨rfl, rfl, fun keyword hnot => ?_⟩
    cases keyword <;> first | rfl | exact absurd (.inl rfl) hnot | exact absurd (.inr trivial) hnot
  | contentEncoding => exact keeps_contentEncoding h
  | required => exact keeps_required h
  | items => exact keeps_items h
  | extending => exact keeps_extending h
  | _ =>
    refine keeps_of_bind h fun _ => ⟨rfl, rfl, fun keyword hnot => ?_⟩
    cases keyword <;> first | rfl | exact absurd (.inl rfl) hnot | exact absurd (.inr trivial) hnot

theorem readMember_cases (h : (readMember site partly (name, value)).Yields fits next) :
    (∃ writer, name = Keyword.name writer ∧ (partly.read site writer value).Yields fits next) ∨
      (∀ writer, name ≠ Keyword.name writer) ∧ next = partly.extend name value := by
  simp only [readMember] at h
  cases hname : Keyword.ofName? name with
  | none =>
    rw [hname] at h
    refine .inr ⟨?_, Inquiry.yields_done.mp h⟩
    rintro writer rfl
    simp [Keyword.ofName?_name] at hname
  | some writer =>
    rw [hname] at h
    exact .inl ⟨writer, (Keyword.name_of_ofName? hname).symm, h⟩

variable {members : Members Json} {last : UnfinishedNode}

theorem frame_foldlM (h : (members.foldlM (readMember site) partly).Yields fits last) :
    last.node.valid = partly.node.valid ∧ last.node.version = partly.node.version := by
  refine h.foldlM (motive := fun mid => mid.node.valid = partly.node.valid ∧ mid.node.version = partly.node.version)
    ⟨rfl, rfl⟩ ?_
  rintro ⟨name, value⟩ _ mid next ⟨hvalid, hversion⟩ hmember
  obtain ⟨writer, _, hread⟩ | ⟨_, rfl⟩ := readMember_cases hmember
  · exact ⟨(keeps_read hread).valid.trans hvalid, (keeps_read hread).version.trans hversion⟩
  · exact ⟨hvalid, hversion⟩

/-- What holds of the fields of a keyword at the beginning and after each keyword that writes them holds at the end. -/
theorem facet_foldlM (h : (members.foldlM (readMember site) partly).Yields fits last) (keyword : Keyword)
    {motive : Facet → Prop} (hstart : motive (partly.facet keyword))
    (hstep : ∀ writer value, (writer.name, value) ∈ members → Writes writer keyword →
      ∀ mid next : UnfinishedNode, (mid.read site writer value).Yields fits next → motive (mid.facet keyword) →
        motive (next.facet keyword)) : motive (last.facet keyword) := by
  refine h.foldlM (motive := fun mid => motive (mid.facet keyword)) hstart ?_
  rintro ⟨name, value⟩ hmem mid next hmid hmember
  obtain ⟨writer, rfl, hread⟩ | ⟨_, rfl⟩ := readMember_cases hmember
  · by_cases hwrites : Writes writer keyword
    · exact hstep writer value hmem hwrites mid next hread hmid
    · rwa [(keeps_read hread).facet keyword hwrites]
  · rwa [facet_extend]

end UnfinishedNode

def SchemaNode.facet (node : SchemaNode) (keyword : Keyword) : Facet :=
  ({ node := node } : UnfinishedNode).facet keyword

namespace UnfinishedNode

/-- The stricter of an inclusive and an exclusive bound, with a flag that it is exclusive. -/
def stricter (meets : Binary64 → Binary64 → Bool) (inclusive : Option Binary64) (flag : Bool) :
    Option Binary64 → Option Binary64 × Bool
  | some bound => if inclusive.all (meets · bound) then (some bound, true) else (inclusive, flag)
  | none => (inclusive, flag)

theorem bounds_finish_eq (partly : UnfinishedNode) :
    (partly.finish.minimum, partly.finish.exclusiveMinimum) =
        stricter Binary64.atMost partly.node.minimum partly.node.exclusiveMinimum partly.above ∧
      (partly.finish.maximum, partly.finish.exclusiveMaximum) =
        stricter (fun bound exclusive => Binary64.atMost exclusive bound) partly.node.maximum
          partly.node.exclusiveMaximum partly.below := by
  unfold finish stricter
  cases partly.above <;> cases partly.below <;> dsimp only <;> (repeat' split) <;> simp_all

theorem facet_finish_of_ne (partly : UnfinishedNode) (keyword : Keyword)
    (h : keyword ∉ [.minimum, .maximum, .exclusiveMinimum, .exclusiveMaximum]) :
    partly.finish.facet keyword = partly.facet keyword := by
  unfold finish
  cases partly.above <;> cases partly.below <;> dsimp only <;> (repeat' split) <;>
    (cases keyword <;> first | rfl | simp at h)

theorem frame_finish (partly : UnfinishedNode) :
    partly.finish.valid = partly.node.valid ∧ partly.finish.version = partly.node.version := by
  unfold finish
  cases partly.above <;> cases partly.below <;> dsimp only <;> (repeat' split) <;> exact ⟨rfl, rfl⟩

end UnfinishedNode

section Objects

variable {fits : Visit → SchemaId → Prop} {location : Location} {members : Members Json} {inherited : Option String}
  {node : SchemaNode}

/-- The node of an object is what its members leave, with the bounds settled. -/
theorem yields_readObject : (readObject location members inherited).Yields fits node ↔
    ∃ version, (versionAt location members inherited).Yields fits version ∧ ∃ last : UnfinishedNode,
      (members.foldlM (readMember ⟨location, version⟩) { node := { version := version } }).Yields fits last ∧
        node = last.finish := by
  simp only [readObject, Inquiry.yields_bind, Inquiry.pure_eq, Inquiry.yields_done]

theorem valid_of_readObject (h : (readObject location members inherited).Yields fits node) : node.valid = none := by
  obtain ⟨version, _, last, hlast, rfl⟩ := yields_readObject.mp h
  rw [last.frame_finish.1, (UnfinishedNode.frame_foldlM hlast).1]

end Objects

end JsonSchema
