import JsonSchema.Proofs.Grounded
import JsonSchema.Proofs.Rewriting

/-!
Values that validators cannot tell apart. No keyword sees how a number is written or in which order members are listed,
but for two: some drafts count only what is written as an integer among the integers, and an integer is divided exactly
by a whole divisor. Without these, equal values get the same verdict from every validator that comes to one.
-/
namespace JsonSchema

/-- A node asks for nothing that depends on how numbers are written. -/
structure SchemaNode.Impartial (node : SchemaNode) : Prop where
  /-- Where drafts are strict about integers, all numbers are welcome if integers are. -/
  types : node.strictIntegers = true → ∀ types, node.types = some types → types.has .integer = true →
    types.has .number = true
  divisor : ∀ divisor, node.multipleOf = some divisor → divisor.isWhole = false

abbrev Respects (accepts : Json → Bool) : Prop := ∀ a b, Json.Alike a b → accepts a = accepts b

namespace Constraint

variable {engine : PatternEngine} {id : SchemaId} {node : SchemaNode}

theorem respects_onNumbers {accepts : Number → Bool}
    (h : ∀ a b : Number, a.Valid → b.Valid → a.units = b.units → accepts a = accepts b) {test : Json → Bool}
    (htest : onNumbers accepts = .test test) : Respects test := by
  cases htest
  rintro a b ⟨⟨ha, hb⟩, heq⟩
  cases a with
  | number n =>
    obtain ⟨m, rfl, hnumbers⟩ := Json.equals_number.mp heq
    exact h n m ha hb ((Number.equals_iff ha hb).mp hnumbers)
  | array as =>
    obtain ⟨bs, rfl, _⟩ := Json.equals_array.mp heq
    rfl
  | object as =>
    obtain ⟨bs, rfl, _⟩ := Json.equals_object.mp heq
    rfl
  | _ => cases b <;> first | rfl | cases heq

theorem respects_onStrings {accepts : String → Bool} {test : Json → Bool} (htest : onStrings accepts = .test test) :
    Respects test := by
  cases htest
  rintro a b ⟨_, heq⟩
  cases a with
  | string s =>
    cases b with
    | string t => rw [show s = t from eq_of_beq heq]
    | _ => cases heq
  | number n =>
    obtain ⟨m, rfl, _⟩ := Json.equals_number.mp heq
    rfl
  | array as =>
    obtain ⟨bs, rfl, _⟩ := Json.equals_array.mp heq
    rfl
  | object as =>
    obtain ⟨bs, rfl, _⟩ := Json.equals_object.mp heq
    rfl
  | _ => cases b <;> first | rfl | cases heq

theorem respects_onArrays {accepts : List Json → Bool}
    (h : ∀ as bs, Json.EqualItems as bs → accepts as = accepts bs) {test : Json → Bool}
    (htest : onArrays accepts = .test test) : Respects test := by
  cases htest
  intro a b hab
  by_cases harray : ∃ as, a = .array as
  · obtain ⟨as, rfl⟩ := harray
    obtain ⟨bs, rfl, hall⟩ := Json.likeness_alike.array hab
    exact h as bs hall
  · have hnot : ∀ as, a ≠ .array as := fun as heq => harray ⟨as, heq⟩
    have hnot' := Check.not_array Json.likeness_alike hab hnot
    cases a <;> cases b <;> first | rfl | exact absurd rfl (hnot _) | exact absurd rfl (hnot' _)

theorem respects_onObjects {accepts : Members Json → Bool}
    (h : ∀ as bs, as.length = bs.length → Check.AlikeMembers Json.Alike as bs → accepts as = accepts bs)
    {test : Json → Bool} (htest : onObjects accepts = .test test) : Respects test := by
  cases htest
  intro a b hab
  by_cases hobject : ∃ as, a = .object as
  · obtain ⟨as, rfl⟩ := hobject
    obtain ⟨bs, rfl, hlength, _⟩ := Json.equals_object.mp hab.2
    exact h as bs hlength (Check.alikeMembers Json.likeness_alike hab)
  · have hnot : ∀ as, a ≠ .object as := fun as heq => hobject ⟨as, heq⟩
    have hnot' := Check.not_object Json.likeness_alike hab hnot
    cases a <;> cases b <;> first | rfl | exact absurd rfl (hnot _) | exact absurd rfl (hnot' _)

theorem respects_admits {types : TypeSet} {strict : Bool}
    (h : strict = true → types.has .integer = true → types.has .number = true) : Respects (types.admits strict) := by
  rintro a b ⟨⟨ha, hb⟩, heq⟩
  cases a with
  | number n =>
    obtain ⟨m, rfl, hnumbers⟩ := Json.equals_number.mp heq
    have hunits := (Number.equals_iff ha hb).mp hnumbers
    have hwhole : n.isWhole = m.isWhole := by rw [Number.isWhole_eq ha, Number.isWhole_eq hb, hunits]
    cases hnumber : types.has .number with
    | true => simp [TypeSet.admits, hnumber]
    | false =>
      cases hinteger : types.has .integer with
      | false => simp [TypeSet.admits, hnumber, hinteger]
      | true =>
        cases strict with
        | true => simp [h rfl hinteger] at hnumber
        | false => cases n <;> cases m <;> simp_all [TypeSet.admits, Number.isWhole]
  | array as =>
    obtain ⟨bs, rfl, _⟩ := Json.equals_array.mp heq
    rfl
  | object as =>
    obtain ⟨bs, rfl, _⟩ := Json.equals_object.mp heq
    rfl
  | _ => cases b <;> first | rfl | cases heq

theorem respects_count {least most : Option Nat} {test : Json → Bool}
    (htest : onArrays (fun items => isBetween least most items.length) = .test test) : Respects test :=
  respects_onArrays (fun _ _ hall => by rw [hall.length_eq]) htest

theorem respects_required {names : List String} {test : Json → Bool}
    (htest : onObjects (fun members => names.all (Members.contains members)) = .test test) : Respects test :=
  respects_onObjects (fun as bs _ halike => by rw [funext (Check.contains_alike halike)]) htest

theorem respects_content {accepts : Json → Bool} (hcheck : content engine id node = .ok (some (.test accepts))) :
    Respects accepts := by
  unfold content at hcheck
  repeat' split at hcheck
  all_goals cases hcheck
  all_goals exact respects_onStrings rfl

theorem not_test_of_asks {constraint : Constraint} (hmem : constraint ∈ inPlace ∨ constraint ∈ onward)
    {accepts : Json → Bool} : constraint engine id node ≠ .ok (some (.test accepts)) := by
  intro hcheck
  simp only [inPlace, onward, List.mem_cons, List.not_mem_nil, or_false] at hmem
  rcases hmem with (rfl | rfl | rfl | rfl | rfl | rfl) | (rfl | rfl | rfl | rfl | rfl | rfl)
  · obtain ⟨_, _, ⟨⟩⟩ := exists_of_map hcheck
  · obtain ⟨_, _, ⟨⟩⟩ := exists_of_map hcheck
  · obtain ⟨_, _, ⟨⟩⟩ := exists_of_map hcheck
  · obtain ⟨_, _, ⟨⟩⟩ := exists_of_map hcheck
  · obtain ⟨_, _, ⟨⟩⟩ := exists_of_map hcheck
  · cases eq_of_ite hcheck
  · -- items
    obtain ⟨items, _, heq⟩ := exists_of_map hcheck
    cases items <;> cases heq
  · obtain ⟨_, _, ⟨⟩⟩ := exists_of_map hcheck
  · cases eq_of_ite hcheck
  · cases eq_of_ite hcheck
  · -- additionalProperties
    unfold additionalProperties at hcheck
    split at hcheck <;> cases hcheck
  · obtain ⟨_, _, ⟨⟩⟩ := exists_of_map hcheck

theorem respects_of_mem_tests (hnode : node.Impartial) {constraint : Constraint} (hmem : constraint ∈ tests)
    {accepts : Json → Bool} (hcheck : constraint engine id node = .ok (some (.test accepts))) : Respects accepts := by
  simp only [tests, List.mem_cons, List.not_mem_nil, or_false] at hmem
  rcases hmem with rfl | rfl | rfl | rfl | rfl | rfl | rfl | rfl | rfl | rfl | rfl | rfl | rfl
  · obtain ⟨c, _, heq⟩ := exists_of_map hcheck
    cases heq
    rintro a b ⟨⟨ha, hb⟩, hab⟩
    exact Json.equals_right_congr ha hb hab c
  · obtain ⟨values, _, heq⟩ := exists_of_map hcheck
    cases heq
    rintro a b ⟨⟨ha, hb⟩, hab⟩
    exact congrArg values.any (funext fun c => Json.equals_right_congr ha hb hab c)
  · obtain ⟨types, htypes, heq⟩ := exists_of_map hcheck
    cases heq
    exact respects_admits fun hstrict => hnode.types hstrict types htypes
  · obtain ⟨bound, _, heq⟩ := exists_of_map hcheck
    refine respects_onNumbers (fun a b ha hb hab => ?_) heq
    rw [Number.meetsMinimum, Number.meetsMinimum, Number.compareBound?_congr ha hb hab]
  · obtain ⟨bound, _, heq⟩ := exists_of_map hcheck
    refine respects_onNumbers (fun a b ha hb hab => ?_) heq
    rw [Number.meetsMaximum, Number.meetsMaximum, Number.compareBound?_congr ha hb hab]
  · obtain ⟨divisor, hdivisor, heq⟩ := exists_of_map hcheck
    exact respects_onNumbers
      (fun a b ha hb hab => Number.isMultipleOf_congr ha hb hab (hnode.divisor divisor hdivisor)) heq
  · exact respects_onStrings (eq_of_ite hcheck).symm
  · obtain ⟨source, _, heq⟩ := exists_of_map hcheck
    exact respects_onStrings heq
  · exact respects_content hcheck
  · exact respects_count (eq_of_ite hcheck).symm
  · -- uniqueItems
    unfold uniqueItems at hcheck
    split at hcheck <;> cases hcheck
    exact respects_onArrays (fun _ _ hall => Json.areDistinct_congr hall) rfl
  · exact respects_required (eq_of_ite hcheck).symm
  · exact respects_onObjects (fun as bs hlength _ => by rw [hlength]) (eq_of_ite hcheck).symm

theorem respects_of_builtin (hnode : node.Impartial) {accepts : Json → Bool}
    (h : .test accepts ∈ SchemaGraph.checksAt engine builtin id node) : Respects accepts := by
  obtain ⟨constraint, hmem, hcheck⟩ := SchemaGraph.mem_checksAt.mp h
  rcases mem_builtin_iff.mp hmem with htest | hasks
  · exact respects_of_mem_tests hnode htest hcheck
  · exact absurd hcheck (not_test_of_asks hasks)

end Constraint

namespace Compiler

open SchemaGraph

variable {compiler : Compiler} {schema : Schema} {validator : Validator}

/-- A validator comes to the same verdict on equal values, where no node that the root leads to depends on how numbers
are written, and none of them is led back to itself about the same value. So neither the order of members nor the way
in which numbers are written changes a verdict. -/
theorem isValid?_indistinguishable (hbuiltin : compiler.constraints = Constraint.builtin)
    (hcompile : compiler.compile schema = .ok validator)
    (himpartial : ∀ id node, schema.graph.Reachable schema.root id → schema.graph.get? id = some node →
      node.valid = none → node.Impartial)
    (hacyclic : ∀ id, schema.graph.Reachable schema.root id → ¬Relation.TransGen schema.graph.StaysAt id id) :
    (∀ a b : Json, a.Valid → b.Valid → a.equals b = true →
      ∃ verdict, validator.isValid? a = some verdict ∧ validator.isValid? b = some verdict) ∧
    ∀ a b : Json, a.Valid → b.Valid → a.Rewritten (fun m n => m.units = n.units) b →
      ∃ verdict, validator.isValid? a = some verdict ∧ validator.isValid? b = some verdict := by
  have hgrounded : schema.graph.Grounded schema.root :=
    ⟨fun id hid => (compile_sound hbuiltin hcompile hid).1, hacyclic⟩
  have hsame (a b : Json) (ha : a.Valid) (hb : b.Valid) (heq : a.equals b = true) :
      ∃ verdict, validator.isValid? a = some verdict ∧ validator.isValid? b = some verdict := by
    rw [isValid?_eq_meaning? hcompile, isValid?_eq_meaning? hcompile, hbuiltin]
    refine hgrounded.agreeing Json.likeness_alike ?_ .refl ⟨⟨ha, hb⟩, heq⟩
    exact fun id node hid hnode hvalid _ => Constraint.respects_of_builtin (himpartial id node hid hnode hvalid)
  exact ⟨hsame, fun a b ha hb hwritten => hsame a b ha hb (hwritten.equals ha hb)⟩

def sizedRecords : Schema where
  graph := ⟨#[{ properties := [("next", ⟨0⟩), ("size", ⟨1⟩)] },
    { types := some (.only .integer), minimum := some (.ofInt 1) }]⟩
  root := ⟨0⟩

theorem isValid?_indistinguishable_sizedRecords :
    ∃ validator verdict, (ofOptions {}).compile sizedRecords = .ok validator ∧
      validator.isValid? (.object [("size", .number (.int 1)), ("next", .object [("size", .number (.int 2))])]) =
        some verdict ∧
      validator.isValid? (.object [("next", .object [("size", .number (.float (.ofInt 2)))]),
        ("size", .number (.int 1))]) = some verdict := by
  obtain ⟨validator, hcompile⟩ : ∃ validator, (ofOptions {}).compile sizedRecords = .ok validator := ⟨_, rfl⟩
  have hnode (id : SchemaId) (node : SchemaNode) (hget : sizedRecords.graph.get? id = some node) :
      node.Impartial ∧ node.inPlace = [] := by
    obtain ⟨_ | _ | _⟩ := id <;> cases hget
    · exact ⟨⟨fun _ _ h => (nomatch h), fun _ h => nomatch h⟩, rfl⟩
    · exact ⟨⟨fun h => (nomatch h), fun _ h => nomatch h⟩, rfl⟩
  have hacyclic (id : SchemaId) : ¬Relation.TransGen sizedRecords.graph.StaysAt id id := by
    intro hcycle
    obtain ⟨_, ⟨node, hget, _, hmem⟩, _⟩ := Relation.TransGen.head'_iff.mp hcycle
    rw [(hnode id node hget).2] at hmem
    cases hmem
  obtain ⟨verdict, hfirst, hsecond⟩ := (isValid?_indistinguishable rfl hcompile
    (fun id node _ hget _ => (hnode id node hget).1) (fun id _ => hacyclic id)).1
    (.object [("size", .number (.int 1)), ("next", .object [("size", .number (.int 2))])])
    (.object [("next", .object [("size", .number (.float (.ofInt 2)))]), ("size", .number (.int 1))])
    (by simp [Json.Valid, Json.ValidMembers, Members.names, Number.Valid])
    (by
      have hfinite : (Binary64.ofInt 2).isFinite = true := by decide +kernel
      simp [Json.Valid, Json.ValidMembers, Members.names, Number.Valid, hfinite])
    (by decide +kernel)
  exact ⟨validator, verdict, hcompile, hfirst, hsecond⟩

end Compiler

end JsonSchema
