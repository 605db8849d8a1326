import JsonSchema.Proofs.MemberPartition

/-!
The elements of an array, and the keywords that tell them apart by their positions. One schema may hold for all of them;
or there is one for each of the first positions, and what is said of additional items holds for the others. So an array
may end anywhere: what is accepted of it is accepted of every beginning of it.
-/
namespace JsonSchema

namespace SchemaNode

/-- An element at a position is accepted by the schema that a node has for the position. -/
structure ElementFits (node : SchemaNode) (accepts : SchemaId → Json → Prop) (position : Nat) (item : Json) : Prop where
  /-- One schema for all positions leaves nothing to additional items. -/
  every : ∀ schema, node.items = some (.every schema) → accepts schema item
  listed : ∀ schemas schema, node.items = some (.tuple schemas) → schemas[position]? = some schema →
    accepts schema item
  rest : ∀ schemas, node.items = some (.tuple schemas) → schemas.length ≤ position →
    node.additionalItems.Admits (accepts · item)

/-- The schemas that a node has for elements. -/
def elementSchemas (node : SchemaNode) : List SchemaId :=
  match node.items with
  | none => []
  | some (.every schema) => [schema]
  | some (.tuple schemas) => schemas ++ node.additionalItems.schemas

variable {node : SchemaNode} {accepts others : SchemaId → Json → Prop} {position : Nat} {item : Json}

theorem ElementFits.imp (hfits : node.ElementFits accepts position item)
    (h : ∀ schema ∈ node.elementSchemas, accepts schema item → others schema item) :
    node.ElementFits others position item where
  every schema hitems := h schema (by simp [elementSchemas, hitems]) (hfits.every schema hitems)
  listed schemas schema hitems hschema := by
    have hmem : schema ∈ schemas := List.mem_of_getElem? hschema
    exact h schema (by simp [elementSchemas, hitems, hmem]) (hfits.listed schemas schema hitems hschema)
  rest schemas hitems hlength := by
    have hadmits := hfits.rest schemas hitems hlength
    cases hrest : node.additionalItems with
    | allowed => trivial
    | forbidden => rwa [hrest] at hadmits
    | schema schema =>
      rw [hrest] at hadmits
      exact h schema (by simp [elementSchemas, hitems, hrest, Additional.schemas]) hadmits

end SchemaNode

/-- The constraint that tells elements apart by their positions. What is said of additional items is a part of it. -/
def Constraint.elementKeywords : List Constraint := [items]

namespace Check

variable {ρ : Type} {fits : ρ → Json → Option Bool} {items : List Json}

theorem run_every_iff {schema : ρ} :
    (every schema).run fits (.array items) = some true ↔
      ∀ (position : Nat) (item : Json), items[position]? = some item → fits schema item = some true := by
  simp only [run, allM_eq_true_iff, List.mem_iff_getElem?, forall_exists_index]
  exact forall_comm

theorem allM_zip_iff {schemas : List ρ} :
    ((items.zip schemas).allM fun (item, schema) => fits schema item) = some true ↔
      ∀ (position : Nat) (item : Json), items[position]? = some item → ∀ schema, schemas[position]? = some schema →
        fits schema item = some true := by
  simp only [allM_eq_true_iff, List.mem_iff_getElem?, List.getElem?_zip_eq_some, Prod.forall, forall_exists_index,
    and_imp]
  constructor
  · intro h position item hitem schema hschema
    exact h item schema position hitem hschema
  · intro h item schema position hitem hschema
    exact h position item hitem schema hschema

theorem allM_drop_iff {schema : ρ} {width : Nat} :
    (items.drop width).allM (fits schema) = some true ↔
      ∀ (position : Nat) (item : Json), items[position]? = some item → width ≤ position →
        fits schema item = some true := by
  simp only [allM_eq_true_iff, List.mem_iff_getElem?, List.getElem?_drop, forall_exists_index]
  constructor
  · intro h position item hitem hle
    exact h item (position - width) (by rwa [Nat.add_sub_cancel' hle])
  · intro h item offset hitem
    exact h (width + offset) item hitem (Nat.le_add_right _ _)

theorem bind_ite_eq_true_iff {first next : Option Bool} :
    (do if ← first then next else some false) = some true ↔ first = some true ∧ next = some true := by
  cases first with
  | none => simp
  | some verdict => cases verdict <;> simp

theorem run_tuple_iff {schemas : List ρ} {rest : Additional ρ} :
    (tuple schemas rest).run fits (.array items) = some true ↔
      ∀ (position : Nat) (item : Json), items[position]? = some item →
        (∀ schema, schemas[position]? = some schema → fits schema item = some true) ∧
        (schemas.length ≤ position → rest.Admits (fits · item = some true)) := by
  simp only [run, bind_ite_eq_true_iff, allM_zip_iff, imp_and, forall_and]
  refine and_congr_right fun _ => ?_
  cases rest with
  | allowed => simp [Additional.Admits]
  | schema schema => exact allM_drop_iff
  | forbidden =>
    simp only [Additional.Admits, Option.some.injEq, decide_eq_true_eq]
    constructor
    · intro hlength position item hitem hle
      obtain ⟨hlt, _⟩ := List.getElem?_eq_some_iff.mp hitem
      omega
    · intro h
      by_contra hlong
      have hlt : schemas.length < items.length := Nat.lt_of_not_le hlong
      exact h schemas.length _ (List.getElem?_eq_getElem hlt) (Nat.le_refl _)

theorem exists_run_every {schema : ρ} (h : ∀ item ∈ items, ∃ verdict, fits schema item = some verdict) :
    ∃ verdict, (every schema).run fits (.array items) = some verdict :=
  exists_allM_eq_some h

theorem exists_run_tuple {schemas : List ρ} {rest : Additional ρ}
    (h : ∀ schema ∈ schemas ++ rest.schemas, ∀ item ∈ items, ∃ verdict, fits schema item = some verdict) :
    ∃ verdict, (tuple schemas rest).run fits (.array items) = some verdict := by
  have hlisted : ∃ verdict, ((items.zip schemas).allM fun (item, schema) => fits schema item) = some verdict := by
    refine exists_allM_eq_some fun ⟨item, schema⟩ hmem => ?_
    obtain ⟨hitem, hschema⟩ := List.of_mem_zip hmem
    exact h schema (List.mem_append_left _ hschema) item hitem
  obtain ⟨verdict, hverdict⟩ := hlisted
  simp only [run, hverdict]
  cases verdict with
  | false => exact ⟨false, rfl⟩
  | true =>
    cases rest with
    | allowed => exact ⟨true, rfl⟩
    | forbidden => exact ⟨_, rfl⟩
    | schema schema =>
      refine exists_allM_eq_some fun item hitem => ?_
      exact h schema (by simp [Additional.schemas]) item (List.mem_of_mem_drop hitem)

end Check

namespace Constraint

variable {engine : PatternEngine} {id : SchemaId} {node : SchemaNode} {fits : SchemaId → Json → Option Bool}
  {elements : List Json}

theorem items_passed_iff :
    (∀ check, items engine id node = .ok (some check) → check.run fits (.array elements) = some true) ↔
      ∀ position item, elements[position]? = some item →
        node.ElementFits (fun schema part => fits schema part = some true) position item := by
  cases hitems : node.items with
  | none =>
    have hmade : items engine id node = .ok none := by simp [items, hitems]
    refine ⟨fun _ _ _ _ => ⟨?_, ?_, ?_⟩, fun _ check hcheck => ?_⟩
    · simp [hitems]
    · simp [hitems]
    · simp [hitems]
    · simp [hmade] at hcheck
  | some said =>
    cases said with
    | every schema =>
      have hmade : items engine id node = .ok (some (.every schema)) := by simp [items, hitems]
      simp only [hmade, Except.ok.injEq, Option.some.injEq, forall_eq', Check.run_every_iff]
      refine forall₃_congr fun position item _ => ⟨fun h => ⟨?_, ?_, ?_⟩, fun h => h.every schema hitems⟩
      · rintro _ heq
        cases hitems.symm.trans heq
        exact h
      · simp [hitems]
      · simp [hitems]
    | tuple schemas =>
      have hmade : items engine id node = .ok (some (.tuple schemas node.additionalItems)) := by simp [items, hitems]
      simp only [hmade, Except.ok.injEq, Option.some.injEq, forall_eq', Check.run_tuple_iff]
      refine forall₃_congr fun position item _ => ⟨fun h => ⟨?_, ?_, ?_⟩, fun h => ⟨?_, h.rest schemas hitems⟩⟩
      · simp [hitems]
      · rintro _ schema heq hschema
        cases hitems.symm.trans heq
        exact h.1 schema hschema
      · rintro _ heq hle
        cases hitems.symm.trans heq
        exact h.2 hle
      · intro schema hschema
        exact h.listed schemas schema hitems hschema

theorem applied_elementKeywords_iff (engine : PatternEngine) (id : SchemaId) {schema : SchemaId} :
    Applied elementKeywords engine id node schema ↔ schema ∈ node.elementSchemas := by
  simp only [Applied, elementKeywords, List.mem_singleton, exists_eq_left]
  cases hitems : node.items with
  | none => simp [SchemaNode.elementSchemas, items, hitems]
  | some said => cases said <;> simp [SchemaNode.elementSchemas, items, hitems, Check.schemas]

theorem exists_run_of_mem_elementKeywords {constraint : Constraint} (hmem : constraint ∈ elementKeywords)
    {check : Check SchemaId} (h : constraint engine id node = .ok (some check))
    (hends : ∀ schema ∈ check.schemas, ∀ item ∈ elements, ∃ verdict, fits schema item = some verdict) :
    ∃ verdict, check.run fits (.array elements) = some verdict := by
  obtain rfl := List.mem_singleton.mp hmem
  obtain ⟨said, _, rfl⟩ := Option.map_eq_some_iff.mp (Except.ok.inj h)
  cases said with
  | every schema => exact Check.exists_run_every (hends schema (by simp [Check.schemas]))
  | tuple schemas => exact Check.exists_run_tuple hends

end Constraint

namespace Compiler

open SchemaGraph

variable {compiler : Compiler} {graph : SchemaGraph} {others : List Constraint} {id : SchemaId} {node : SchemaNode}
  {validator : Validator} {items : List Json}

theorem verdictBy?_elementKeywords_iff (hnode : graph.get? id = some node) :
    compiler.verdictBy? graph Constraint.elementKeywords id (.array items) = some true ↔
      ∀ (position : Nat) (item : Json), items[position]? = some item → node.ElementFits
        (fun schema part => graph.meaning? compiler.engine compiler.constraints schema part = some true)
        position item := by
  rw [verdictBy?_eq_true_iff hnode]
  simp only [Constraint.elementKeywords, List.forall_mem_singleton]
  exact Constraint.items_passed_iff

theorem decides_elementKeywords
    (hkeywords : ∀ constraint ∈ Constraint.elementKeywords, constraint ∈ compiler.constraints)
    (hcompile : compiler.compile ⟨graph, id⟩ = .ok validator) (hnode : graph.get? id = some node)
    (hvalid : node.valid = none)
    (hends : ∀ schema ∈ node.elementSchemas, ∀ item ∈ items,
      ∃ verdict, compiler.verdict? ⟨graph, schema⟩ item = some verdict) :
    compiler.Decides graph Constraint.elementKeywords id (.array items)
      (∀ (position : Nat) (item : Json), items[position]? = some item → node.ElementFits
        (fun schema part => compiler.verdict? ⟨graph, schema⟩ part = some true) position item) := by
  have hmeaning {schema : SchemaId} (hschema : schema ∈ node.elementSchemas) (value : Json) :
      compiler.verdict? ⟨graph, schema⟩ value = graph.meaning? compiler.engine compiler.constraints schema value :=
    verdict?_of_applied hkeywords hcompile hnode hvalid ((Constraint.applied_elementKeywords_iff _ _).mpr hschema) value
  constructor
  case ends =>
    refine exists_verdictBy? hnode fun constraint hmem check hcheck => ?_
    refine Constraint.exists_run_of_mem_elementKeywords hmem hcheck fun schema happlied item hitem => ?_
    have hschema : schema ∈ node.elementSchemas :=
      (Constraint.applied_elementKeywords_iff _ _).mp ⟨constraint, hmem, check, hcheck, happlied⟩
    rw [← hmeaning hschema]
    exact hends schema hschema item hitem
  case accepts_iff =>
    rw [verdictBy?_elementKeywords_iff hnode]
    refine forall₃_congr fun position item _ => ⟨fun hfits => hfits.imp ?_, fun hfits => hfits.imp ?_⟩
    · intro schema hschema haccepts
      rwa [hmeaning hschema]
    · intro schema hschema haccepts
      rwa [← hmeaning hschema]

/-- What the keyword for elements accepts, it accepts every beginning of. -/
theorem verdictBy?_elementKeywords_beginning (hnode : graph.get? id = some node) {beginning : List Json}
    (hbeginning : beginning <+: items)
    (haccepts : compiler.verdictBy? graph Constraint.elementKeywords id (.array items) = some true) :
    compiler.verdictBy? graph Constraint.elementKeywords id (.array beginning) = some true := by
  obtain ⟨more, rfl⟩ := hbeginning
  rw [verdictBy?_elementKeywords_iff hnode] at haccepts ⊢
  intro position item hitem
  obtain ⟨hlt, _⟩ := List.getElem?_eq_some_iff.mp hitem
  exact haccepts position item ((List.getElem?_append_left hlt).trans hitem)

/-- The keywords for elements look at each position of an array once: they accept it exactly if each element is accepted
by the schema for all of them, or by the one that is listed for its position or, past the listed ones, by what is said
of additional items. So they accept every beginning of an array that they accept. -/
theorem elements_each_once (hkeywords : ∀ constraint, constraint ∈ compiler.constraints ↔
      constraint ∈ Constraint.elementKeywords ∨ constraint ∈ others)
    (hcompile : compiler.compile ⟨graph, id⟩ = .ok validator) (hnode : graph.get? id = some node)
    (hvalid : node.valid = none)
    (hends : ∀ schema ∈ node.elementSchemas, ∀ item ∈ items,
      ∃ verdict, compiler.verdict? ⟨graph, schema⟩ item = some verdict) :
    (∃ verdict, compiler.verdictBy? graph Constraint.elementKeywords id (.array items) = some verdict ∧
      (verdict = true ↔ ∀ (position : Nat) (item : Json), items[position]? = some item → node.ElementFits
        (fun schema part => compiler.verdict? ⟨graph, schema⟩ part = some true) position item)) ∧
    (validator.isValid? (.array items) = some true ↔
      (∀ (position : Nat) (item : Json), items[position]? = some item → node.ElementFits
        (fun schema part => compiler.verdict? ⟨graph, schema⟩ part = some true) position item) ∧
      compiler.verdictBy? graph others id (.array items) = some true) ∧
    ∀ beginning, beginning <+: items →
      compiler.verdictBy? graph Constraint.elementKeywords id (.array items) = some true →
      compiler.verdictBy? graph Constraint.elementKeywords id (.array beginning) = some true := by
  have hdecides := decides_elementKeywords (fun constraint hmem => (hkeywords constraint).mpr (.inl hmem)) hcompile
    hnode hvalid hends
  exact ⟨hdecides.verdict, hdecides.isValid?_iff hkeywords hcompile hnode hvalid,
    fun _ hbeginning haccepts => verdictBy?_elementKeywords_beginning hnode hbeginning haccepts⟩

def labelledTails : SchemaNode where
  items := some (.tuple [⟨1⟩, ⟨2⟩])
  additionalItems := .schema ⟨0⟩
  types := some (.only .array)

def labelledGraph : SchemaGraph :=
  ⟨#[labelledTails, { types := some (.only .string) }, { types := some (.only .number) }]⟩

def labelledItems : List Json := [.string "x", .number (.int 1), .array [.string "y"], .array []]

theorem elements_each_once_labelledTails :
    ∃ validator, (ofOptions {}).compile ⟨labelledGraph, ⟨0⟩⟩ = .ok validator ∧
      (∀ (position : Nat) (item : Json), labelledItems[position]? = some item → labelledTails.ElementFits
        (fun schema part => (ofOptions {}).verdict? ⟨labelledGraph, schema⟩ part = some true) position item) ∧
      validator.isValid? (.array labelledItems) = some true ∧
      (ofOptions {}).verdictBy? labelledGraph Constraint.elementKeywords ⟨0⟩ (.array [.string "x"]) = some true := by
  obtain ⟨validator, hcompile⟩ : ∃ validator, (ofOptions {}).compile ⟨labelledGraph, ⟨0⟩⟩ = .ok validator := ⟨_, rfl⟩
  have hkeywords (constraint : Constraint) : constraint ∈ (ofOptions {}).constraints ↔
      constraint ∈ Constraint.elementKeywords ∨
        constraint ∈ Constraint.builtin.take 14 ++ Constraint.builtin.drop 15 := by
    have hsplit : (ofOptions {}).constraints =
        Constraint.builtin.take 14 ++ (Constraint.elementKeywords ++ Constraint.builtin.drop 15) := rfl
    rw [hsplit]
    simp only [List.mem_append]
    tauto
  have hends : ∀ schema ∈ labelledTails.elementSchemas, ∀ item ∈ labelledItems,
      ((ofOptions {}).verdict? ⟨labelledGraph, schema⟩ item).isSome := by decide +kernel
  have hnode : labelledGraph.get? ⟨0⟩ = some labelledTails := rfl
  obtain ⟨⟨verdict, hverdict, hiff⟩, haccepts, hbeginning⟩ := elements_each_once hkeywords hcompile hnode rfl
    fun schema hschema item hmem => Option.isSome_iff_exists.mp (hends schema hschema item hmem)
  have haccepted : (ofOptions {}).verdictBy? labelledGraph Constraint.elementKeywords ⟨0⟩ (.array labelledItems) =
      some true := by decide +kernel
  have hfits := hiff.mp (Option.some.inj (hverdict.symm.trans haccepted))
  exact ⟨validator, hcompile, hfits, haccepts.mpr ⟨hfits, by decide +kernel⟩,
    hbeginning [.string "x"] ⟨_, rfl⟩ haccepted⟩

end Compiler

end JsonSchema
