import JsonSchema.Proofs.KeywordGroups

/-!
The members of an object, and the keywords that share them out. A member fits the schema that is declared for its name
and the schemas of all patterns that its name matches; and if there are none of either, it fits what is said of
additional properties. What is no pattern has no part in this.
-/
namespace JsonSchema

/-- What is said of elements or members that nothing else covers holds of one of them. Where they are forbidden, it is
as if there were a schema that accepts nothing. -/
def Additional.Admits {ρ : Type} (accepts : ρ → Prop) : Additional ρ → Prop
  | allowed => True
  | forbidden => False
  | schema s => accepts s

/-- The schema belongs to a pattern of the node that matches the name. -/
def SchemaNode.Matches (node : SchemaNode) (engine : PatternEngine) (name : String) (schema : SchemaId) : Prop :=
  ∃ source test, (source, schema) ∈ node.patternProperties ∧ engine source = some test ∧ test name = true

/-- A member is accepted by the schemas that a node has for its name. -/
structure SchemaNode.MemberFits (node : SchemaNode) (engine : PatternEngine) (accepts : SchemaId → Json → Prop)
    (name : String) (value : Json) : Prop where
  declared : ∀ schema, (name, schema) ∈ node.properties → accepts schema value
  /-- Any number of patterns may match, and a declared name may match too. -/
  matched : ∀ schema, node.Matches engine name schema → accepts schema value
  rest : name ∉ Members.names node.properties → (∀ schema, ¬node.Matches engine name schema) →
    node.additionalProperties.Admits (accepts · value)

def SchemaNode.memberSchemas (node : SchemaNode) : List SchemaId :=
  Members.values node.properties ++ Members.values node.patternProperties ++ node.additionalProperties.schemas

namespace SchemaNode

variable {node : SchemaNode} {engine : PatternEngine} {accepts others : SchemaId → Json → Prop} {name : String}
  {value : Json} {schema : SchemaId}

theorem mem_memberSchemas_iff : schema ∈ node.memberSchemas ↔ schema ∈ Members.values node.properties ∨
    schema ∈ Members.values node.patternProperties ∨ schema ∈ node.additionalProperties.schemas := by
  simp only [memberSchemas, List.mem_append, or_assoc]

theorem MemberFits.imp (hfits : node.MemberFits engine accepts name value)
    (h : ∀ schema ∈ node.memberSchemas, accepts schema value → others schema value) :
    node.MemberFits engine others name value where
  declared schema hmem := by
    refine h schema (mem_memberSchemas_iff.mpr (.inl ?_)) (hfits.declared schema hmem)
    exact List.mem_map.mpr ⟨_, hmem, rfl⟩
  matched schema hmatches := by
    refine h schema (mem_memberSchemas_iff.mpr (.inr (.inl ?_))) (hfits.matched schema hmatches)
    obtain ⟨source, _, hmem, _⟩ := hmatches
    exact List.mem_map.mpr ⟨_, hmem, rfl⟩
  rest hdeclared hmatched := by
    have hadmits := hfits.rest hdeclared hmatched
    cases hrest : node.additionalProperties with
    | allowed => trivial
    | forbidden => rwa [hrest] at hadmits
    | schema schema =>
      rw [hrest] at hadmits
      refine h schema (mem_memberSchemas_iff.mpr (.inr (.inr ?_))) hadmits
      rw [hrest]
      exact List.mem_singleton_self schema

end SchemaNode

/-- The constraints that share out the members of objects. -/
def Constraint.memberKeywords : List Constraint := [properties, patternProperties, additionalProperties]

namespace Check

variable {ρ : Type} {fits : ρ → Json → Option Bool} {members : Members Json}

theorem run_properties_iff {schemas : List (String × ρ)} (hnodup : (Members.names members).Nodup) :
    (properties schemas).run fits (.object members) = some true ↔
      ∀ name value, (name, value) ∈ members → ∀ schema, (name, schema) ∈ schemas → fits schema value = some true := by
  simp only [run, allM_eq_true_iff, Prod.forall]
  constructor
  · intro h name value hmem schema hschema
    have hfits := h name schema hschema
    rwa [Members.find?_of_mem hnodup hmem] at hfits
  · intro h name schema hschema
    cases hfind : Members.find? members name with
    | none => rfl
    | some value => exact h name value (Members.mem_of_find? hfind) schema hschema

theorem run_patternProperties_iff {schemas : List (Option (String → Bool) × ρ)} :
    (patternProperties schemas).run fits (.object members) = some true ↔
      ∀ name value, (name, value) ∈ members → ∀ test schema, (some test, schema) ∈ schemas → test name = true →
        fits schema value = some true := by
  simp only [run, allM_eq_true_iff, Prod.forall]
  refine forall₃_congr fun name value _ => ⟨fun h test schema hschema htest => ?_, fun h test schema hschema => ?_⟩
  · simpa [htest] using h (some test) schema hschema
  · cases test with
    | none => rfl
    | some test =>
      cases htest : test name with
      | false => simp [htest]
      | true => simpa [htest] using h test schema hschema htest

theorem run_additionalProperties_iff {covered : String → Bool} {schema : Option ρ} :
    (additionalProperties covered schema).run fits (.object members) = some true ↔
      ∀ name value, (name, value) ∈ members → covered name = false →
        ∃ other, schema = some other ∧ fits other value = some true := by
  simp only [run, allM_eq_true_iff, List.mem_filter, Prod.forall, Bool.not_eq_true', and_imp]
  refine forall₄_congr fun name value _ _ => ?_
  cases schema <;> simp

theorem exists_run_properties {schemas : List (String × ρ)}
    (h : ∀ schema ∈ Members.values schemas, ∀ name value, (name, value) ∈ members →
      ∃ verdict, fits schema value = some verdict) :
    ∃ verdict, (properties schemas).run fits (.object members) = some verdict := by
  refine exists_allM_eq_some fun ⟨name, schema⟩ hschema => ?_
  dsimp only
  cases hfind : Members.find? members name with
  | none => exact ⟨true, rfl⟩
  | some value => exact h schema (List.mem_map.mpr ⟨_, hschema, rfl⟩) name value (Members.mem_of_find? hfind)

theorem exists_run_patternProperties {schemas : List (Option (String → Bool) × ρ)}
    (h : ∀ schema ∈ schemas.map Prod.snd, ∀ name value, (name, value) ∈ members →
      ∃ verdict, fits schema value = some verdict) :
    ∃ verdict, (patternProperties schemas).run fits (.object members) = some verdict := by
  refine exists_allM_eq_some fun ⟨name, value⟩ hmem => exists_allM_eq_some fun ⟨accepts, schema⟩ hschema => ?_
  dsimp only
  split
  · exact h schema (List.mem_map.mpr ⟨_, hschema, rfl⟩) name value hmem
  · exact ⟨true, rfl⟩

theorem exists_run_additionalProperties {covered : String → Bool} {schema : Option ρ}
    (h : ∀ other ∈ schema.toList, ∀ name value, (name, value) ∈ members → ∃ verdict, fits other value = some verdict) :
    ∃ verdict, (additionalProperties covered schema).run fits (.object members) = some verdict := by
  refine exists_allM_eq_some fun ⟨name, value⟩ hmem => ?_
  cases schema with
  | none => exact ⟨false, rfl⟩
  | some other => exact h other (by simp) name value (List.mem_filter.mp hmem).1

end Check

namespace Constraint

variable {engine : PatternEngine} {id : SchemaId} {node : SchemaNode} {fits : SchemaId → Json → Option Bool}
  {members : Members Json}

theorem properties_passed_iff (hnodup : (Members.names members).Nodup) :
    (∀ check, properties engine id node = .ok (some check) → check.run fits (.object members) = some true) ↔
      ∀ name value, (name, value) ∈ members →
        ∀ schema, (name, schema) ∈ node.properties → fits schema value = some true := by
  rw [← Check.run_properties_iff hnodup]
  unfold properties
  cases node.properties with
  | nil => simp [Check.run]
  | cons => simp

theorem patternProperties_passed_iff :
    (∀ check, patternProperties engine id node = .ok (some check) → check.run fits (.object members) = some true) ↔
      ∀ name value, (name, value) ∈ members →
        ∀ schema, node.Matches engine name schema → fits schema value = some true := by
  have hrun : (∀ check, patternProperties engine id node = .ok (some check) →
      check.run fits (.object members) = some true) ↔
      (Check.patternProperties (node.patternProperties.map fun entry => (engine entry.1, entry.2))).run fits
        (.object members) = some true := by
    unfold patternProperties
    cases node.patternProperties with
    | nil => simp [Check.run, allM_eq_true_iff]
    | cons => simp
  rw [hrun, Check.run_patternProperties_iff]
  refine forall₃_congr fun name value _ => ?_
  constructor
  · rintro h schema ⟨source, test, hmem, hengine, hmatch⟩
    exact h test schema (List.mem_map.mpr ⟨(source, schema), hmem, by rw [hengine]⟩) hmatch
  · intro h test schema hschema hmatch
    obtain ⟨⟨source, other⟩, hmem, heq⟩ := List.mem_map.mp hschema
    obtain ⟨hengine, rfl⟩ := Prod.mk.inj heq
    exact h other ⟨source, test, hmem, hengine, hmatch⟩

theorem isCovered_eq_false_iff {name : String} :
    isCovered (Members.names node.properties) ((Members.names node.patternProperties).filterMap engine) name = false ↔
      name ∉ Members.names node.properties ∧ ∀ schema, ¬node.Matches engine name schema := by
  have hmatches : ((Members.names node.patternProperties).filterMap engine).any (· name) = true ↔
      ∃ schema, node.Matches engine name schema := by
    simp only [List.any_eq_true, List.mem_filterMap, Members.mem_names_iff, SchemaNode.Matches]
    constructor
    · rintro ⟨test, ⟨source, ⟨schema, hmem⟩, hengine⟩, hmatch⟩
      exact ⟨schema, source, test, hmem, hengine, hmatch⟩
    · rintro ⟨schema, source, test, hmem, hengine, hmatch⟩
      exact ⟨test, ⟨source, ⟨schema, hmem⟩, hengine⟩, hmatch⟩
  simp only [isCovered, ← Bool.not_eq_true, Bool.or_eq_true, hmatches, List.contains_iff_mem, not_or, not_exists]

theorem additionalProperties_passed_iff :
    (∀ check, additionalProperties engine id node = .ok (some check) → check.run fits (.object members) = some true) ↔
      ∀ name value, (name, value) ∈ members → name ∉ Members.names node.properties →
        (∀ schema, ¬node.Matches engine name schema) →
          node.additionalProperties.Admits (fits · value = some true) := by
  unfold additionalProperties
  cases node.additionalProperties with
  | allowed => simp [Additional.Admits]
  | forbidden =>
    simp [Additional.Admits, Check.run_additionalProperties_iff, isCovered_eq_false_iff]
  | schema schema =>
    simp [Additional.Admits, Check.run_additionalProperties_iff, isCovered_eq_false_iff]

theorem memberKeywords_cases {constraint : Constraint} (hmem : constraint ∈ memberKeywords) {check : Check SchemaId}
    (h : constraint engine id node = .ok (some check)) :
    check = .properties node.properties ∨
      check = .patternProperties (node.patternProperties.map fun entry => (engine entry.1, entry.2)) ∨
      ∃ covered schema, check = .additionalProperties covered schema ∧
        schema.toList = node.additionalProperties.schemas := by
  simp only [memberKeywords, List.mem_cons, List.not_mem_nil, or_false] at hmem
  rcases hmem with rfl | rfl | rfl
  · unfold properties at h
    split at h <;> cases h
    exact .inl rfl
  · unfold patternProperties at h
    split at h <;> cases h
    exact .inr (.inl rfl)
  · unfold additionalProperties at h
    split at h <;> cases h <;> rename_i hrest <;> exact .inr (.inr ⟨_, _, rfl, by rw [hrest]; rfl⟩)

theorem applied_memberKeywords_iff (engine : PatternEngine) (id : SchemaId) {schema : SchemaId} :
    Applied memberKeywords engine id node schema ↔ schema ∈ node.memberSchemas := by
  have hpatterns : (Check.patternProperties (node.patternProperties.map fun entry =>
      (engine entry.1, entry.2))).schemas = Members.values node.patternProperties := by
    rw [Check.schemas, List.map_map]
    rfl
  rw [SchemaNode.mem_memberSchemas_iff]
  constructor
  · rintro ⟨constraint, hkeyword, check, hcheck, hmem⟩
    rcases memberKeywords_cases hkeyword hcheck with rfl | rfl | ⟨covered, rest, rfl, hrest⟩
    · exact .inl hmem
    · exact .inr (.inl (hpatterns ▸ hmem))
    · exact .inr (.inr (hrest ▸ hmem))
  · rintro (hmem | hmem | hmem)
    · refine ⟨properties, by simp [memberKeywords], .properties node.properties, ?_, hmem⟩
      unfold properties
      cases hlist : node.properties with
      | nil => simp [hlist, Members.values] at hmem
      | cons => rfl
    · refine ⟨patternProperties, by simp [memberKeywords], _, ?_, hpatterns ▸ hmem⟩
      unfold patternProperties
      cases hlist : node.patternProperties with
      | nil => simp [hlist, Members.values] at hmem
      | cons => rfl
    · cases hrest : node.additionalProperties with
      | schema other =>
        let covered := isCovered (Members.names node.properties)
          ((Members.names node.patternProperties).filterMap engine)
        rw [hrest] at hmem
        refine ⟨additionalProperties, by simp [memberKeywords], .additionalProperties covered (some other), ?_, hmem⟩
        rw [additionalProperties, hrest]
      | _ => simp [hrest, Additional.schemas] at hmem

theorem exists_run_of_mem_memberKeywords {constraint : Constraint} (hmem : constraint ∈ memberKeywords)
    {check : Check SchemaId} (h : constraint engine id node = .ok (some check))
    (hends : ∀ schema ∈ check.schemas, ∀ name value, (name, value) ∈ members →
      ∃ verdict, fits schema value = some verdict) :
    ∃ verdict, check.run fits (.object members) = some verdict := by
  rcases memberKeywords_cases hmem h with rfl | rfl | ⟨covered, schema, rfl, _⟩
  · exact Check.exists_run_properties hends
  · exact Check.exists_run_patternProperties hends
  · exact Check.exists_run_additionalProperties hends

end Constraint

namespace Compiler

open SchemaGraph

variable {compiler : Compiler} {graph : SchemaGraph} {others : List Constraint} {id : SchemaId} {node : SchemaNode}
  {validator : Validator} {members : Members Json}

theorem verdictBy?_memberKeywords_iff (hnode : graph.get? id = some node) (hnodup : (Members.names members).Nodup) :
    compiler.verdictBy? graph Constraint.memberKeywords id (.object members) = some true ↔
      ∀ name value, (name, value) ∈ members → node.MemberFits compiler.engine
        (fun schema part => graph.meaning? compiler.engine compiler.constraints schema part = some true)
        name value := by
  rw [verdictBy?_eq_true_iff hnode]
  simp only [Constraint.memberKeywords, List.forall_mem_cons, List.not_mem_nil, false_imp_iff, implies_true, and_true,
    Constraint.properties_passed_iff hnodup, Constraint.patternProperties_passed_iff,
    Constraint.additionalProperties_passed_iff]
  constructor
  · rintro ⟨hdeclared, hmatched, hrest⟩ name value hmem
    exact ⟨hdeclared name value hmem, hmatched name value hmem, hrest name value hmem⟩
  · intro h
    exact ⟨fun name value hmem => (h name value hmem).declared, fun name value hmem => (h name value hmem).matched,
      fun name value hmem => (h name value hmem).rest⟩

theorem decides_memberKeywords (hkeywords : ∀ constraint ∈ Constraint.memberKeywords, constraint ∈ compiler.constraints)
    (hcompile : compiler.compile ⟨graph, id⟩ = .ok validator) (hnode : graph.get? id = some node)
    (hvalid : node.valid = none) (hnodup : (Members.names members).Nodup)
    (hends : ∀ schema ∈ node.memberSchemas, ∀ name value, (name, value) ∈ members →
      ∃ verdict, compiler.verdict? ⟨graph, schema⟩ value = some verdict) :
    compiler.Decides graph Constraint.memberKeywords id (.object members)
      (∀ name value, (name, value) ∈ members → node.MemberFits compiler.engine
        (fun schema part => compiler.verdict? ⟨graph, schema⟩ part = some true) name value) := by
  have hmeaning {schema : SchemaId} (hschema : schema ∈ node.memberSchemas) (value : Json) :
      compiler.verdict? ⟨graph, schema⟩ value = graph.meaning? compiler.engine compiler.constraints schema value :=
    verdict?_of_applied hkeywords hcompile hnode hvalid ((Constraint.applied_memberKeywords_iff _ _).mpr hschema) value
  constructor
  case ends =>
    refine exists_verdictBy? hnode fun constraint hmem check hcheck => ?_
    refine Constraint.exists_run_of_mem_memberKeywords hmem hcheck fun schema happlied name value hmember => ?_
    have hschema : schema ∈ node.memberSchemas :=
      (Constraint.applied_memberKeywords_iff _ _).mp ⟨constraint, hmem, check, hcheck, happlied⟩
    rw [← hmeaning hschema]
    exact hends schema hschema name value hmember
  case accepts_iff =>
    rw [verdictBy?_memberKeywords_iff hnode hnodup]
    refine forall₃_congr fun name value _ => ⟨fun hfits => hfits.imp ?_, fun hfits => hfits.imp ?_⟩
    · intro schema hschema haccepts
      rwa [hmeaning hschema]
    · intro schema hschema haccepts
      rwa [← hmeaning hschema]

/-- The keywords for members share out the members of an object: they accept it exactly if each member is accepted by
the schema that is declared for its name, by those of all patterns that its name matches and, if there are none of
either, by what is said of additional properties. What is no pattern has no part in this, whatever the patterns are. -/
theorem members_partition (hkeywords : ∀ constraint, constraint ∈ compiler.constraints ↔
      constraint ∈ Constraint.memberKeywords ∨ constraint ∈ others)
    (hcompile : compiler.compile ⟨graph, id⟩ = .ok validator) (hnode : graph.get? id = some node)
    (hvalid : node.valid = none) (hnodup : (Members.names members).Nodup)
    (hends : ∀ schema ∈ node.memberSchemas, ∀ name value, (name, value) ∈ members →
      ∃ verdict, compiler.verdict? ⟨graph, schema⟩ value = some verdict) :
    (∃ verdict, compiler.verdictBy? graph Constraint.memberKeywords id (.object members) = some verdict ∧
      (verdict = true ↔ ∀ name value, (name, value) ∈ members → node.MemberFits compiler.engine
        (fun schema part => compiler.verdict? ⟨graph, schema⟩ part = some true) name value)) ∧
    (validator.isValid? (.object members) = some true ↔
      (∀ name value, (name, value) ∈ members → node.MemberFits compiler.engine
        (fun schema part => compiler.verdict? ⟨graph, schema⟩ part = some true) name value) ∧
      compiler.verdictBy? graph others id (.object members) = some true) := by
  have hdecides := decides_memberKeywords (fun constraint hmem => (hkeywords constraint).mpr (.inl hmem)) hcompile hnode
    hvalid hnodup hends
  exact ⟨hdecides.verdict, hdecides.isValid?_iff hkeywords hcompile hnode hvalid⟩

def leadingText : Compiler where
  engine source := if source = "[" then none else some fun name => source.toList.isPrefixOf name.toList

def overlappingNames : SchemaNode where
  properties := [("name", ⟨1⟩)]
  patternProperties := [("n", ⟨2⟩), ("na", ⟨1⟩), ("[", ⟨3⟩)]
  additionalProperties := .schema ⟨0⟩

def overlappingGraph : SchemaGraph :=
  ⟨#[overlappingNames, { types := some (.only .string) }, { minLength := some 1 }, .boolean false]⟩

def overlappingMembers : Members Json := [("name", .string "x"), ("n", .null), ("[", .object [("other", .null)])]

theorem members_partition_overlappingNames :
    ∃ validator, leadingText.compile ⟨overlappingGraph, ⟨0⟩⟩ = .ok validator ∧
      (∀ name value, (name, value) ∈ overlappingMembers → overlappingNames.MemberFits leadingText.engine
        (fun schema part => leadingText.verdict? ⟨overlappingGraph, schema⟩ part = some true) name value) ∧
      validator.isValid? (.object overlappingMembers) = some true := by
  obtain ⟨validator, hcompile⟩ : ∃ validator, leadingText.compile ⟨overlappingGraph, ⟨0⟩⟩ = .ok validator := ⟨_, rfl⟩
  have hkeywords (constraint : Constraint) : constraint ∈ leadingText.constraints ↔
      constraint ∈ Constraint.memberKeywords ∨
        constraint ∈ Constraint.builtin.take 18 ++ Constraint.builtin.drop 21 := by
    have hsplit : leadingText.constraints =
        Constraint.builtin.take 18 ++ (Constraint.memberKeywords ++ Constraint.builtin.drop 21) := rfl
    rw [hsplit]
    simp only [List.mem_append]
    tauto
  have hends : ∀ schema ∈ overlappingNames.memberSchemas, ∀ member ∈ overlappingMembers,
      (leadingText.verdict? ⟨overlappingGraph, schema⟩ member.2).isSome := by decide +kernel
  have hnode : overlappingGraph.get? ⟨0⟩ = some overlappingNames := rfl
  have hnodup : (Members.names overlappingMembers).Nodup := by decide
  obtain ⟨⟨verdict, hverdict, hiff⟩, haccepts⟩ :=
    members_partition hkeywords hcompile hnode rfl hnodup
      fun schema hschema name value hmem => Option.isSome_iff_exists.mp (hends schema hschema _ hmem)
  have haccepted : leadingText.verdictBy? overlappingGraph Constraint.memberKeywords ⟨0⟩ (.object overlappingMembers) =
      some true := by decide +kernel
  have hfits := hiff.mp (Option.some.inj (hverdict.symm.trans haccepted))
  exact ⟨validator, hcompile, hfits, haccepts.mpr ⟨hfits, by decide +kernel⟩⟩

end Compiler

end JsonSchema
