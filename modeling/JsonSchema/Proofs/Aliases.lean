import JsonSchema.Proofs.GraphImage
import JsonSchema.Proofs.Grounded
import JsonSchema.Proofs.Linking.Permutation

/-!
Keywords that write the same fields of a node. Parents that an object extends are kept with the members of `allOf`, and
there is one divisor for two keywords. So some of what an object says may be lost: parents that are named before
`allOf`, and the divisor that is named first. All the rest holds of every value that the object accepts.
-/
namespace JsonSchema

def Keyword.divisors : List Keyword := [.multipleOf, .divisibleBy]

namespace UnfinishedNode

variable {fits : Visit → SchemaId → Prop} {site : Site} {partly mid next last : UnfinishedNode} {keyword : Keyword}
  {value : Json}

theorem mem_divisors_of_writes {writer : Keyword} (h : Writes writer .multipleOf) : writer ∈ Keyword.divisors := by
  rcases h with rfl | hshares
  · simp [Keyword.divisors]
  · cases writer <;> first | exact False.elim hshares | simp [Keyword.divisors]

theorem multipleOf_read (hkeyword : keyword ∈ Keyword.divisors)
    (h : (mid.read site keyword value).Yields fits next) :
    ∃ divisor, value.divisor? = some divisor ∧ next.node.multipleOf = some divisor := by
  have hread (hx : (UnfinishedNode.read.readDivisor mid site value keyword).Yields fits next) :
      ∃ divisor, value.divisor? = some divisor ∧ next.node.multipleOf = some divisor := by
    obtain ⟨_, _, hx⟩ := Inquiry.yields_bind.mp hx
    obtain ⟨divisor, hdivisor, rfl⟩ := Inquiry.yields_bind_pure.mp hx
    exact ⟨divisor, yields_expect.mp hdivisor, rfl⟩
  simp only [Keyword.divisors, List.mem_cons, List.not_mem_nil, or_false] at hkeyword
  rcases hkeyword with rfl | rfl
  · exact hread h
  · exact hread h

theorem multipleOf_of_last {before after : Members Json} (hkeyword : keyword ∈ Keyword.divisors)
    (h : ((before ++ (keyword.name, value) :: after).foldlM (readMember site) partly).Yields fits last)
    (hafter : ∀ other ∈ Keyword.divisors, other.name ∉ Members.names after) :
    ∃ divisor, value.divisor? = some divisor ∧ last.node.multipleOf = some divisor := by
  have hunwritten (writer : Keyword) (value' : Json) (hmem : (writer.name, value') ∈ after) :
      ¬Writes writer .multipleOf := by
    intro hwrites
    exact hafter writer (mem_divisors_of_writes hwrites) (List.mem_map.mpr ⟨_, hmem, rfl⟩)
  obtain ⟨mid, next, _, hread, hlast⟩ := exists_read_of_last h hunwritten
  obtain ⟨divisor, hvalue, hnext⟩ := multipleOf_read hkeyword hread
  have hsame : last.node.multipleOf = next.node.multipleOf := Facet.bound.inj hlast
  exact ⟨divisor, hvalue, hsame.trans hnext⟩

end UnfinishedNode

namespace Compiler

open SchemaGraph

variable {compiler : Compiler} {graph : SchemaGraph} {id child : SchemaId} {node : SchemaNode} {validator : Validator}
  {value : Json}

/-- A node that a compiled one leads to compiles too. -/
theorem exists_validator_of_follows (hbuiltin : compiler.constraints = Constraint.builtin)
    (hcompile : compiler.compile ⟨graph, id⟩ = .ok validator) (hfollows : graph.Follows id child) :
    ∃ other, compiler.compile ⟨graph, child⟩ = .ok other := by
  rw [← asks_eq_follows hbuiltin] at hfollows
  refine exists_validator_iff.mpr fun other hreach => ?_
  exact (sound_of_asked hcompile (hreach.head hfollows)).2

theorem run_of_isValid? (hcompile : compiler.compile ⟨graph, id⟩ = .ok validator) (hnode : graph.get? id = some node)
    (hvalid : node.valid = none) (haccepts : validator.isValid? value = some true) {check : Check SchemaId}
    (hcheck : check ∈ checksAt compiler.engine compiler.constraints id node) :
    check.run (graph.meaning? compiler.engine compiler.constraints) value = some true := by
  have hmeaning := isValid?_eq_meaning? hcompile value
  rw [haccepts, meaning?_eq hnode hvalid] at hmeaning
  exact allM_eq_true_iff.mp hmeaning.symm check hcheck

theorem isValid?_allOf (hbuiltin : compiler.constraints = Constraint.builtin)
    (hcompile : compiler.compile ⟨graph, id⟩ = .ok validator) (hnode : graph.get? id = some node)
    (hvalid : node.valid = none) (haccepts : validator.isValid? value = some true)
    (hchild : child ∈ node.allOf.getD []) :
    ∃ other, compiler.compile ⟨graph, child⟩ = .ok other ∧ other.isValid? value = some true := by
  have hfollows : graph.Follows id child := by
    refine ⟨node, hnode, hvalid, ?_⟩
    simp [SchemaNode.followed, SchemaNode.inPlace, hchild]
  obtain ⟨other, hother⟩ := exists_validator_of_follows hbuiltin hcompile hfollows
  obtain ⟨ids, hids⟩ : ∃ ids, node.allOf = some ids := by
    cases hall : node.allOf with
    | none => simp [hall] at hchild
    | some ids => exact ⟨ids, rfl⟩
  have hcheck : .allOf ids ∈ checksAt compiler.engine compiler.constraints id node := by
    refine mem_checksAt.mpr ⟨Constraint.allOf, by simp [hbuiltin, Constraint.builtin], ?_⟩
    rw [Constraint.allOf, hids]
    rfl
  have hall := run_of_isValid? hcompile hnode hvalid haccepts hcheck
  rw [hids] at hchild
  refine ⟨other, hother, ?_⟩
  rw [isValid?_eq_meaning? hother]
  exact allM_eq_true_iff.mp hall child hchild

theorem isMultipleOf_of_isValid? (hbuiltin : compiler.constraints = Constraint.builtin)
    (hcompile : compiler.compile ⟨graph, id⟩ = .ok validator) (hnode : graph.get? id = some node)
    (hvalid : node.valid = none) {n : Number} (haccepts : validator.isValid? (.number n) = some true)
    {divisor : Binary64} (hdivisor : node.multipleOf = some divisor) : n.isMultipleOf divisor = true := by
  have hcheck : Constraint.onNumbers (·.isMultipleOf divisor) ∈
      checksAt compiler.engine compiler.constraints id node := by
    refine mem_checksAt.mpr ⟨Constraint.multipleOf, by simp [hbuiltin, Constraint.builtin], ?_⟩
    rw [Constraint.multipleOf, hdivisor]
    rfl
  exact Option.some.inj (run_of_isValid? hcompile hnode hvalid haccepts hcheck)

/-- The verdict on a value of the schema at a place, if it has a node that compiles. -/
def verdictAt? (compiler : Compiler) (final : LinkState) (location : Location) (value : Json) : Option Bool := do
  let id ← final.nodeAt? location
  let validator ← (compiler.compile ⟨final.graph, id⟩).toOption
  validator.isValid? value

theorem verdictAt?_eq_some_iff {final : LinkState} {location : Location} {verdict : Bool} :
    compiler.verdictAt? final location value = some verdict ↔
      ∃ id validator, final.nodeAt? location = some id ∧ compiler.compile ⟨final.graph, id⟩ = .ok validator ∧
        validator.isValid? value = some verdict := by
  have hok {result : Except CompileError Validator} {validator : Validator} :
      result.toOption = some validator ↔ result = .ok validator := by
    cases result <;> simp [Except.toOption]
  simp [verdictAt?, Option.bind_eq_some_iff, hok]

end Compiler

namespace Reader

open LinkState Compiler

variable {reader : Reader} {document : Json} {root : SchemaId} {final : LinkState} {location : Location}
  {members : Members Json} {compiler : Compiler} {validator : Validator} {id : SchemaId} {node : SchemaNode}
  {value : Json}

theorem exists_yields_of_nodeAt? (hcanonical : reader.source.Canonical)
    (h : reader.link? document = some (.ok root, final)) (hid : final.nodeAt? location = some id)
    (hvalue : final.valueAt? location = some (.object members))
    (hmember : Members.find? members Keyword.reference.name = none) :
    ∃ inherited node, final.graph.get? id = some node ∧
      (readObject location members inherited).Yields (UnfinishedNode.AtPlace (Located final)) node := by
  have href : final.refAt? location = none := by simp [refAt?, hvalue, Json.member?, hmember]
  obtain ⟨node, hnode, ⟨valid, hbool, _⟩ | ⟨other, inherited, hobject, hyields⟩⟩ :=
    (reader.visited_root document hcanonical h).sound.exists_depicted hid href
  · rw [hvalue] at hbool
    cases hbool
  · obtain ⟨rfl⟩ := Option.some.inj (hvalue.symm.trans hobject)
    exact ⟨inherited, node, hnode, hyields⟩

/-- A value that a node accepts is accepted at all places that the node has a link of `allOf` to. -/
theorem verdictAt?_of_leads (hbuiltin : compiler.constraints = Constraint.builtin)
    (hcompile : compiler.compile ⟨final.graph, id⟩ = .ok validator) (hnode : final.graph.get? id = some node)
    (hvalid : node.valid = none) (haccepts : validator.isValid? value = some true) {places : List (List String)}
    (hleads : List.Forall₂ (LeadsAlong (Located final) location .allOf) places (node.links .allOf))
    {steps : List String} (hsteps : steps ∈ places) :
    compiler.verdictAt? final (location.child steps) value = some true := by
  obtain ⟨link, hlink, _, hlocated⟩ := Check.exists_right_of_forall₂ hleads hsteps
  have hmem : link.2 ∈ node.allOf.getD [] := by
    obtain ⟨child, hmem, rfl⟩ := List.mem_map.mp hlink
    exact hmem
  obtain ⟨other, hother, haccepted⟩ := isValid?_allOf hbuiltin hcompile hnode hvalid haccepts hmem
  exact verdictAt?_eq_some_iff.mpr ⟨link.2, other, hlocated, hother, haccepted⟩

/-- A value that an object accepts, after a read that succeeds, is accepted by every member of its `allOf` and by every
parent that is named after `allOf`, or by every parent if there is no `allOf`; and if it is a number, it is a multiple
of the divisor that is named last. -/
theorem link?_aliases (hcanonical : reader.source.Canonical) (h : reader.link? document = some (.ok root, final))
    (hvalue : final.valueAt? location = some (.object members))
    (hmember : Members.find? members Keyword.reference.name = none) (hnodup : (Members.names members).Nodup)
    (hbuiltin : compiler.constraints = Constraint.builtin)
    (haccepts : compiler.verdictAt? final location value = some true) :
    (∀ before bases after, members = before ++ (Keyword.allOf.name, bases) :: after →
      ∀ steps ∈ Keyword.allOf.places bases ++ parentPlaces after,
        compiler.verdictAt? final (location.child steps) value = some true) ∧
    (Keyword.allOf.name ∉ Members.names members → ∀ steps ∈ parentPlaces members,
      compiler.verdictAt? final (location.child steps) value = some true) ∧
    ∀ n, value = .number n → ∀ keyword ∈ Keyword.divisors, ∀ before text after,
      members = before ++ (keyword.name, text) :: after →
      (∀ other ∈ Keyword.divisors, other.name ∉ Members.names after) →
        ∃ divisor, text.divisor? = some divisor ∧ n.isMultipleOf divisor = true := by
  obtain ⟨id, validator, hid, hcompile, hverdict⟩ := verdictAt?_eq_some_iff.mp haccepts
  obtain ⟨inherited, node, hnode, hyields⟩ := exists_yields_of_nodeAt? hcanonical h hid hvalue hmember
  have hmirrors : Mirrors (Located final) location members node := mirrors_of_readObject hyields hnodup
  have hvalid : node.valid = none := valid_of_readObject hyields
  obtain ⟨version, _, last, hlast, rfl⟩ := yields_readObject.mp hyields
  refine ⟨?_, ?_, ?_⟩
  · intro before bases after hsplit steps hsteps
    exact verdictAt?_of_leads hbuiltin hcompile hnode hvalid hverdict (hmirrors.bases before bases after hsplit) hsteps
  · intro hname steps hsteps
    exact verdictAt?_of_leads hbuiltin hcompile hnode hvalid hverdict (hmirrors.parents hname) hsteps
  · rintro n rfl keyword hkeyword before text after rfl hafter
    obtain ⟨divisor, htext, hdivisor⟩ := UnfinishedNode.multipleOf_of_last hkeyword hlast hafter
    have hfinish : last.finish.multipleOf = last.node.multipleOf :=
      Facet.bound.inj (last.facet_finish_of_ne .multipleOf (by simp))
    exact ⟨divisor, htext, isMultipleOf_of_isValid? hbuiltin hcompile hnode hvalid hverdict (hfinish.trans hdivisor)⟩

def sixfold : Json :=
  .object [("multipleOf", .number (.int 2)), ("allOf", .array [.object [("minimum", .number (.int 1))]]),
    ("extends", .object [("type", .string "integer")]), ("divisibleBy", .number (.int 3))]

theorem link?_aliases_sixfold :
    ({} : Reader).source.Canonical ∧ ∃ final, ({} : Reader).link? sixfold = some (.ok ⟨0⟩, final) ∧
      (ofOptions {}).verdictAt? final ⟨0, "/allOf/0"⟩ (.number (.int 6)) = some true ∧
      (ofOptions {}).verdictAt? final ⟨0, "/extends"⟩ (.number (.int 6)) = some true ∧
      ∃ divisor, Json.divisor? (.number (.int 3)) = some divisor ∧ (Number.int 6).isMultipleOf divisor = true := by
  refine ⟨canonical_default, ?_⟩
  have hfinal : (({} : Reader).link? sixfold).map (fun outcome =>
      (outcome.1, (ofOptions {}).verdictAt? outcome.2 ⟨0, ""⟩ (.number (.int 6)))) = some (.ok ⟨0⟩, some true) := by
    decide +kernel
  obtain ⟨⟨result, final⟩, hlink, hfacts⟩ := Option.map_eq_some_iff.mp hfinal
  simp only [Prod.mk.injEq] at hfacts
  obtain ⟨rfl, haccepts⟩ := hfacts
  have hvalue : final.valueAt? ⟨0, ""⟩ = some sixfold := valueAt?_root _ canonical_default hlink
  obtain ⟨hbases, _, hdivisors⟩ := link?_aliases canonical_default hlink hvalue rfl (by decide) rfl haccepts
  have hbase := hbases [("multipleOf", .number (.int 2))] _ _ rfl
  refine ⟨final, hlink, hbase ["allOf", "0"] (by decide), hbase ["extends"] (by decide), ?_⟩
  exact hdivisors _ rfl .divisibleBy (by decide) [_, _, _] _ [] rfl (by decide)

def stringBefore : Json :=
  .object [("extends", .object [("type", .string "string")]),
    ("allOf", .array [.object [("minLength", .number (.int 1))]])]

def evenBefore : Json := .object [("multipleOf", .number (.int 2)), ("divisibleBy", .number (.int 3))]

/-- A parent that is named before `allOf` may not accept what the object accepts, and what an object accepts may be no
multiple of a divisor that is named first. -/
theorem aliases_erased :
    (¬∀ document root final location members value, ({} : Reader).link? document = some (.ok root, final) →
      final.valueAt? location = some (.object members) → Members.find? members Keyword.reference.name = none →
      (Members.names members).Nodup → (ofOptions {}).verdictAt? final location value = some true →
        ∀ bases, (Keyword.allOf.name, bases) ∈ members → ∀ steps ∈ Keyword.allOf.places bases ++ parentPlaces members,
          (ofOptions {}).verdictAt? final (location.child steps) value = some true) ∧
    ¬∀ document root final location members n, ({} : Reader).link? document = some (.ok root, final) →
      final.valueAt? location = some (.object members) → Members.find? members Keyword.reference.name = none →
      (Members.names members).Nodup → (ofOptions {}).verdictAt? final location (.number n) = some true →
        ∀ keyword ∈ Keyword.divisors, ∀ text divisor, (keyword.name, text) ∈ members →
          text.divisor? = some divisor → n.isMultipleOf divisor = true := by
  constructor
  · intro h
    have hfinal : (({} : Reader).link? stringBefore).map (fun outcome =>
        (outcome.1, (ofOptions {}).verdictAt? outcome.2 ⟨0, ""⟩ (.number (.int 5)),
          (ofOptions {}).verdictAt? outcome.2 ⟨0, "/extends"⟩ (.number (.int 5)))) =
        some (.ok ⟨0⟩, some true, some false) := by decide +kernel
    obtain ⟨⟨result, final⟩, hlink, hfacts⟩ := Option.map_eq_some_iff.mp hfinal
    simp only [Prod.mk.injEq] at hfacts
    obtain ⟨rfl, haccepts, hparent⟩ := hfacts
    have hvalue : final.valueAt? ⟨0, ""⟩ = some stringBefore := valueAt?_root _ canonical_default hlink
    have haccepted := h _ _ final _ _ _ hlink hvalue rfl (by decide) haccepts _ (List.mem_cons_of_mem _ (.head _))
      ["extends"] (by decide)
    rw [show Location.child ⟨0, ""⟩ ["extends"] = ⟨0, "/extends"⟩ from rfl, hparent] at haccepted
    cases haccepted
  · intro h
    have hfinal : (({} : Reader).link? evenBefore).map (fun outcome =>
        (outcome.1, (ofOptions {}).verdictAt? outcome.2 ⟨0, ""⟩ (.number (.int 3)))) = some (.ok ⟨0⟩, some true) := by
      decide +kernel
    obtain ⟨⟨result, final⟩, hlink, hfacts⟩ := Option.map_eq_some_iff.mp hfinal
    simp only [Prod.mk.injEq] at hfacts
    obtain ⟨rfl, haccepts⟩ := hfacts
    have hvalue : final.valueAt? ⟨0, ""⟩ = some evenBefore := valueAt?_root _ canonical_default hlink
    have hodd : (Json.divisor? (.number (.int 2))).map (Number.int 3).isMultipleOf = some false := by decide +kernel
    obtain ⟨divisor, hdivisor, hodd⟩ := Option.map_eq_some_iff.mp hodd
    have hmultiple := h _ _ final _ _ _ hlink hvalue rfl (by decide) haccepts .multipleOf (by decide) _ divisor
      (.head _) hdivisor
    rw [hodd] at hmultiple
    cases hmultiple

end Reader

end JsonSchema
