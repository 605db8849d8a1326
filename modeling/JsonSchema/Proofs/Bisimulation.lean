import JsonSchema.Proofs.Grounded
import JsonSchema.Proofs.Linking.Permutation

/-!
Graphs that say the same. Where the nodes of two graphs are paired so that each pair agrees about pairs, one graph
compiles if the other one does, and the validators never contradict each other.
-/
namespace JsonSchema

/-- One and the same value, as it can stand in a document. -/
def Json.Same (a b : Json) : Prop := a.Valid ∧ a = b

theorem Json.likeness_same : Likeness Json.Same where
  symm := by
    rintro a _ ⟨ha, rfl⟩
    exact ⟨ha, rfl⟩
  string _ := ⟨trivial, rfl⟩
  array := by
    rintro as _ ⟨ha, rfl⟩
    exact ⟨as, rfl, List.forall₂_same.mpr fun x hx => ⟨valid_array.mp ha x hx, rfl⟩⟩
  object := by
    rintro as _ ⟨ha, rfl⟩
    obtain ⟨_, hvalid⟩ := valid_object.mp ha
    refine ⟨as, rfl, fun name => ?_, fun name x hmem => ⟨x, hmem, hvalid name x hmem, rfl⟩⟩
    cases hfind : Members.find? as name with
    | none => exact .none
    | some x => exact .some ⟨hvalid name x (Members.mem_of_find? hfind), rfl⟩

namespace Constraint

variable {agree : SchemaId → SchemaId → Prop} {node node' : SchemaNode} {engine : PatternEngine} {id id' : SchemaId}

abbrev MakeSame (agree : SchemaId → SchemaId → Prop) (made made' : Option (Check SchemaId)) : Prop :=
  Option.Rel (Check.Matches Json.Same agree) made made'

theorem makeSame_map {α β : Type} {rel : α → β → Prop} {value : Option α} {value' : Option β} {f : α → Check SchemaId}
    {f' : β → Check SchemaId} (h : Option.Rel rel value value')
    (hcheck : ∀ a b, rel a b → Check.Matches Json.Same agree (f a) (f' b)) :
    MakeSame agree (value.map f) (value'.map f') := by
  cases h with
  | none => exact .none
  | some hab => exact .some (hcheck _ _ hab)

theorem makeSame_ite {absent absent' : Bool} {check check' : Check SchemaId} (h : absent = absent')
    (hcheck : Check.Matches Json.Same agree check check') :
    MakeSame agree (if absent then none else some check) (if absent' then none else some check') := by
  subst h
  cases absent
  · exact .some hcheck
  · exact .none

theorem makeSame_of_eq {constraint : Constraint} (hmem : constraint ∈ tests)
    (heq : (constraint engine id node).toOption.join = (constraint engine id' node').toOption.join) :
    MakeSame agree (constraint engine id node).toOption.join (constraint engine id' node').toOption.join := by
  rw [← heq]
  cases hmade : constraint engine id node with
  | error => exact .none
  | ok made =>
    cases made with
    | none => exact .none
    | some check =>
      have hnone : check.schemas = [] := schemas_eq_nil hmem hmade
      refine .some (check.matches_self (fun schema hschema => ?_) fun accepts _ a b ⟨_, hab⟩ => hab ▸ rfl)
      rw [hnone] at hschema
      cases hschema

theorem isEmpty_eq {α β : Type} {rel : α → β → Prop} {as : Members α} {bs : Members β}
    (h : Check.SameEntries rel as bs) :
    as.isEmpty = bs.isEmpty := by
  cases as with
  | nil =>
    cases bs with
    | nil => rfl
    | cons b bs =>
      obtain ⟨_, hmem, _⟩ := h.right b.1 b.2 (List.mem_cons_self ..)
      cases hmem
  | cons a as =>
    cases bs with
    | nil =>
      obtain ⟨_, hmem, _⟩ := h.left a.1 a.2 (List.mem_cons_self ..)
      cases hmem
    | cons b bs => rfl

theorem mem_names_iff_of_sameEntries {α β : Type} {rel : α → β → Prop} {as : Members α} {bs : Members β}
    (h : Check.SameEntries rel as bs) (name : String) : name ∈ Members.names as ↔ name ∈ Members.names bs := by
  rw [Members.mem_names_iff, Members.mem_names_iff]
  exact ⟨fun ⟨a, hmem⟩ => (h.left name a hmem).imp fun _ hb => hb.1,
    fun ⟨b, hmem⟩ => (h.right name b hmem).imp fun _ ha => ha.1⟩

theorem equals_reordered {constant constant' : Json} (h : constant.Reordered constant') {a b : Json}
    (hab : Json.Same a b) : constant.equals a = constant'.equals b := by
  obtain ⟨ha, rfl⟩ := hab
  obtain ⟨⟨hvalid, hvalid'⟩, _⟩ := id h
  exact Json.equals_congr hvalid hvalid' h.equals ha ha (Json.equals_refl ha)

theorem isCovered_eq (engine : PatternEngine) {properties patterns properties' patterns' : Members SchemaId}
    (hproperties : Check.SameEntries agree properties properties')
    (hpatterns : Check.SameEntries agree patterns patterns') (name : String) :
    isCovered (Members.names properties) ((Members.names patterns).filterMap engine) name =
      isCovered (Members.names properties') ((Members.names patterns').filterMap engine) name := by
  have hdeclared : (Members.names properties).contains name = (Members.names properties').contains name := by
    rw [Bool.eq_iff_iff, List.contains_iff_mem, List.contains_iff_mem]
    exact mem_names_iff_of_sameEntries hproperties name
  have htests : ((Members.names patterns).filterMap engine).any (· name) =
      ((Members.names patterns').filterMap engine).any (· name) := by
    rw [Bool.eq_iff_iff]
    simp only [List.any_eq_true, List.mem_filterMap, mem_names_iff_of_sameEntries hpatterns]
  rw [isCovered, isCovered, hdeclared, htests]

section Agreement

variable (h : node.Agrees agree node')

include h

theorem makeSame_enum :
    MakeSame agree (enum engine id node).toOption.join (enum engine id' node').toOption.join := by
  refine makeSame_map (h.facets .enum) fun values values' hvalues => .test fun a b hab => ?_
  induction hvalues with
  | nil => rfl
  | cons hvalue _ ih => rw [List.any_cons, List.any_cons, equals_reordered hvalue hab, ih]

theorem makeSame_content :
    MakeSame agree (content engine id node).toOption.join (content engine id' node').toOption.join := by
  have htype : node.mediaType = node'.mediaType := h.facets .contentMediaType
  have hbase64 : node.base64 = node'.base64 := h.facets .contentEncoding
  refine makeSame_of_eq (by simp [tests]) ?_
  simp only [content, htype, hbase64]
  cases node'.mediaType with
  | none => rfl
  | some mediaType => by_cases hjson : isJsonMediaType mediaType <;> simp [hjson, Except.toOption]

theorem makeSame_required :
    MakeSame agree (required engine id node).toOption.join (required engine id' node').toOption.join := by
  have hnames : ∀ name, name ∈ node.required ↔ name ∈ node'.required := h.facets .required
  refine makeSame_ite ?_ (.test fun a b hsame => ?_)
  · rw [Bool.eq_iff_iff, List.isEmpty_iff, List.isEmpty_iff, List.eq_nil_iff_forall_not_mem,
      List.eq_nil_iff_forall_not_mem]
    exact forall_congr' fun name => not_congr (hnames name)
  · obtain ⟨_, rfl⟩ := hsame
    cases a with
    | object members =>
      dsimp only
      rw [Bool.eq_iff_iff, List.all_eq_true, List.all_eq_true]
      exact forall_congr' fun name => by rw [hnames name]
    | _ => rfl

theorem makeSame_of_mem_tests {constraint : Constraint} (hmem : constraint ∈ tests) :
    MakeSame agree (constraint engine id node).toOption.join (constraint engine id' node').toOption.join := by
  simp only [tests, List.mem_cons, List.not_mem_nil, or_false] at hmem
  rcases hmem with rfl | rfl | rfl | rfl | rfl | rfl | rfl | rfl | rfl | rfl | rfl | rfl | rfl
  · exact makeSame_map (h.facets .const) fun _ _ hconst => .test fun _ _ => equals_reordered hconst
  · exact makeSame_enum h
  · have htypes : node.types = node'.types := h.facets .type
    exact makeSame_of_eq (by simp [tests]) (by simp only [type, htypes, h.strict])
  · have hbound : node.minimum = node'.minimum := h.facets .minimum
    have hflag : node.exclusiveMinimum = node'.exclusiveMinimum := (h.facets .exclusiveMinimum).1
    exact makeSame_of_eq (by simp [tests]) (by simp only [minimum, hbound, hflag])
  · have hbound : node.maximum = node'.maximum := h.facets .maximum
    have hflag : node.exclusiveMaximum = node'.exclusiveMaximum := (h.facets .exclusiveMaximum).1
    exact makeSame_of_eq (by simp [tests]) (by simp only [maximum, hbound, hflag])
  · have hdivisor : node.multipleOf = node'.multipleOf := h.facets .multipleOf
    exact makeSame_of_eq (by simp [tests]) (by simp only [multipleOf, hdivisor])
  · have hleast : node.minLength = node'.minLength := h.facets .minLength
    have hmost : node.maxLength = node'.maxLength := h.facets .maxLength
    exact makeSame_of_eq (by simp [tests]) (by simp only [length, hleast, hmost])
  · have hpattern : node.pattern = node'.pattern := h.facets .pattern
    exact makeSame_of_eq (by simp [tests]) (by simp only [pattern, hpattern])
  · exact makeSame_content h
  · have hleast : node.minItems = node'.minItems := h.facets .minItems
    have hmost : node.maxItems = node'.maxItems := h.facets .maxItems
    exact makeSame_of_eq (by simp [tests]) (by simp only [itemCount, hleast, hmost])
  · have hunique : node.uniqueItems = node'.uniqueItems := h.facets .uniqueItems
    exact makeSame_of_eq (by simp [tests]) (by simp only [uniqueItems, hunique])
  · exact makeSame_required h
  · have hleast : node.minProperties = node'.minProperties := h.facets .minProperties
    have hmost : node.maxProperties = node'.maxProperties := h.facets .maxProperties
    exact makeSame_of_eq (by simp [tests]) (by simp only [propertyCount, hleast, hmost])

theorem makeSame_of_mem_inPlace {constraint : Constraint} (hmem : constraint ∈ inPlace) :
    MakeSame agree (constraint engine id node).toOption.join (constraint engine id' node').toOption.join := by
  simp only [inPlace, List.mem_cons, List.not_mem_nil, or_false] at hmem
  rcases hmem with rfl | rfl | rfl | rfl | rfl | rfl
  · exact makeSame_map (h.facets .allOf) fun _ _ => .allOf
  · exact makeSame_map (h.facets .anyOf) fun _ _ => .anyOf
  · exact makeSame_map (h.facets .oneOf) fun _ _ => .oneOf
  · exact makeSame_map (h.facets .not) fun _ _ => .not
  · exact makeSame_map (h.facets .condition) fun _ _ hcondition =>
      .conditional hcondition (h.facets .consequence) (h.facets .alternative)
  · exact makeSame_ite (isEmpty_eq (h.facets .dependencies)) (.dependencies (h.facets .dependencies))

theorem makeSame_patternProperties : MakeSame agree (patternProperties engine id node).toOption.join
    (patternProperties engine id' node').toOption.join := by
  have hpatterns : Check.SameEntries agree node.patternProperties node'.patternProperties :=
    h.facets .patternProperties
  refine makeSame_ite (isEmpty_eq hpatterns)
    (.patternProperties ⟨fun accepts schema hmem => ?_, fun accepts other hmem => ?_⟩)
  · obtain ⟨⟨source, _⟩, hentry, ⟨⟩⟩ := List.mem_map.mp hmem
    obtain ⟨other, hother, hagree⟩ := hpatterns.left source schema hentry
    exact ⟨other, List.mem_map.mpr ⟨_, hother, rfl⟩, hagree⟩
  · obtain ⟨⟨source, _⟩, hentry, ⟨⟩⟩ := List.mem_map.mp hmem
    obtain ⟨schema, hschema, hagree⟩ := hpatterns.right source other hentry
    exact ⟨schema, List.mem_map.mpr ⟨_, hschema, rfl⟩, hagree⟩

theorem makeSame_additionalProperties : MakeSame agree (additionalProperties engine id node).toOption.join
    (additionalProperties engine id' node').toOption.join := by
  have hcovered := isCovered_eq engine (h.facets .properties) (h.facets .patternProperties)
  have hmore : Check.RestAgrees agree node.additionalProperties node'.additionalProperties :=
    h.facets .additionalProperties
  unfold additionalProperties
  generalize node.additionalProperties = more at hmore
  generalize node'.additionalProperties = more' at hmore
  cases hmore with
  | allowed => exact .none
  | forbidden => exact .some (.additionalProperties hcovered .none)
  | schema hid => exact .some (.additionalProperties hcovered (.some hid))

theorem makeSame_of_mem_onward {constraint : Constraint} (hmem : constraint ∈ onward) :
    MakeSame agree (constraint engine id node).toOption.join (constraint engine id' node').toOption.join := by
  simp only [onward, List.mem_cons, List.not_mem_nil, or_false] at hmem
  rcases hmem with rfl | rfl | rfl | rfl | rfl | rfl
  · refine makeSame_map (h.facets .items) fun items items' hitems => ?_
    cases hitems with
    | every hid => exact .every hid
    | tuple hall => exact .tuple hall (h.facets .additionalItems)
  · exact makeSame_map (h.facets .contains) fun _ _ => .contains
  · exact makeSame_ite (isEmpty_eq (h.facets .properties)) (.properties (h.facets .properties))
  · exact makeSame_patternProperties h
  · exact makeSame_additionalProperties h
  · exact makeSame_map (h.facets .propertyNames) fun _ _ => .propertyNames

/-- Every constraint makes checks that ask the same out of nodes that agree. -/
theorem makeSame_of_agrees {constraint : Constraint} (hmem : constraint ∈ builtin) :
    MakeSame agree (constraint engine id node).toOption.join (constraint engine id' node').toOption.join := by
  rcases mem_builtin_iff.mp hmem with htest | hplace | honward
  · exact makeSame_of_mem_tests h htest
  · exact makeSame_of_mem_inPlace h hplace
  · exact makeSame_of_mem_onward h honward

end Agreement

end Constraint

namespace Check

variable {ρ σ : Type} {agree : ρ → σ → Prop} {other : σ}

theorem SameEntries.exists_schema {α : Type} {schemas : List (α × ρ)} {others : List (α × σ)}
    (h : SameEntries agree schemas others) (hmem : other ∈ others.map Prod.snd) :
    ∃ schema ∈ schemas.map Prod.snd, agree schema other := by
  obtain ⟨⟨name, _⟩, hentry, rfl⟩ := List.mem_map.mp hmem
  obtain ⟨schema, hschema, hagree⟩ := h.right name _ hentry
  exact ⟨schema, List.mem_map.mpr ⟨_, hschema, rfl⟩, hagree⟩

theorem Matches.exists_schema {alike : Json → Json → Prop} {check : Check ρ} {check' : Check σ}
    (h : Matches alike agree check check') (hmem : other ∈ check'.schemas) :
    ∃ schema ∈ check.schemas, agree schema other := by
  have hlist {schemas : List ρ} {others : List σ} (hall : List.Forall₂ agree schemas others) (hmem : other ∈ others) :
      ∃ schema ∈ schemas, agree schema other := exists_of_forall₂_of_mem hall hmem
  cases h with
  | test => cases hmem
  | allOf hall | anyOf hall | oneOf hall => exact hlist hall hmem
  | not hagree | every hagree | contains hagree | propertyNames hagree => exact hlist (.cons hagree .nil) hmem
  | conditional hcondition hfirst hsecond =>
    exact hlist (.cons hcondition (List.rel_append (toList_rel hfirst) (toList_rel hsecond))) hmem
  | tuple hall hmore => exact hlist (List.rel_append hall hmore.schemas) hmem
  | properties hall | patternProperties hall => exact hall.exists_schema hmem
  | additionalProperties _ hagree => exact hlist (toList_rel hagree) hmem
  | dependencies hall =>
    obtain ⟨dependency, hdependency, hschema⟩ := List.mem_flatMap.mp hmem
    obtain ⟨first, hfirst, hagree⟩ := hall.exists_schema hdependency
    obtain ⟨schema, hmem, hsame⟩ := hlist hagree.schemas hschema
    exact ⟨schema, List.mem_flatMap.mpr ⟨first, hfirst, hmem⟩, hsame⟩

end Check

/-- The nodes of two graphs are paired so that each pair agrees about pairs. -/
def SchemaGraph.Pairs (graph graph' : SchemaGraph) (agree : SchemaId → SchemaId → Prop) : Prop :=
  ∀ id id', agree id id' → ∃ node node', graph.get? id = some node ∧ graph'.get? id' = some node' ∧
    node.Agrees agree node'

namespace SchemaGraph

variable {graph graph' : SchemaGraph} {agree : SchemaId → SchemaId → Prop} {engine : PatternEngine} {id id' : SchemaId}

theorem matches_checksAt {node node' : SchemaNode} (h : node.Agrees agree node') :
    List.Forall₂ (Check.Matches Json.Same agree) (checksAt engine Constraint.builtin id node)
      (checksAt engine Constraint.builtin id' node') := by
  have hall (constraints : List Constraint) (hsub : constraints ⊆ Constraint.builtin) :
      List.Forall₂ (Check.Matches Json.Same agree) (checksAt engine constraints id node)
        (checksAt engine constraints id' node') := by
    induction constraints with
    | nil => exact .nil
    | cons constraint rest ih =>
      obtain ⟨hmem, hrest⟩ := List.cons_subset.mp hsub
      have hmade : Constraint.MakeSame agree (constraint engine id node).toOption.join
          (constraint engine id' node').toOption.join := Constraint.makeSame_of_agrees h hmem
      simp only [checksAt, List.filterMap_cons] at ih ⊢
      generalize (constraint engine id node).toOption.join = made at hmade ⊢
      generalize (constraint engine id' node').toOption.join = made' at hmade ⊢
      cases hmade with
      | none => exact ih hrest
      | some hcheck => exact .cons hcheck (ih hrest)
  exact hall _ (List.Subset.refl _)

/-- Nodes of a pair never contradict each other. -/
theorem fits_consistent (h : graph.Pairs graph' agree) (steps steps' : Nat) (hagree : agree id id') {value : Json}
    (hvalid : value.Valid) :
    Consistent (graph.fits engine Constraint.builtin steps id value)
      (graph'.fits engine Constraint.builtin steps' id' value) := by
  induction steps generalizing steps' id id' value with
  | zero => exact fun a b ha => nomatch ha
  | succ steps ih =>
    cases steps' with
    | zero => exact fun a b _ hb => nomatch hb
    | succ steps' =>
      obtain ⟨node, node', hnode, hnode', hnodes⟩ := h id id' hagree
      cases hboolean : node.valid with
      | some valid =>
        have hboolean' : node'.valid = some valid := hnodes.valid ▸ hboolean
        simpa [fits, hnode, hnode', hboolean, hboolean'] using Consistent.unordered.some valid
      | none =>
        rw [fits_succ hnode hboolean, fits_succ hnode' (hnodes.valid ▸ hboolean)]
        refine Consistent.unordered.allM ((matches_checksAt hnodes).imp fun check check' hmatch => ?_)
        refine Check.run_alike Json.likeness_same Consistent.unordered ⟨hvalid, rfl⟩ hmatch ?_
        rintro schema schema' hpair x _ ⟨hx, rfl⟩ _
        exact ih steps' hpair hx

theorem exists_reachable (h : graph.Pairs graph' agree) {root root' : SchemaId} (hroot : agree root root')
    (hreach : graph'.Reachable root' id') : ∃ id, graph.Reachable root id ∧ agree id id' := by
  induction hreach with
  | refl => exact ⟨root, .refl, hroot⟩
  | @tail mid _ _ hfollows ih =>
    obtain ⟨id, hid, hagree⟩ := ih
    obtain ⟨made, hmade, hboolean, hmem⟩ := hfollows
    obtain ⟨node, node', hnode, hnode', hnodes⟩ := h id _ hagree
    obtain rfl : made = node' := Option.some.inj (hmade.symm.trans hnode')
    let engine : PatternEngine := fun _ => none
    have hchecks : List.Forall₂ (Check.Matches Json.Same agree) (checksAt engine Constraint.builtin id node)
        (checksAt engine Constraint.builtin mid made) := matches_checksAt hnodes
    obtain ⟨check', hcheck', hschema'⟩ := exists_check_of_followed hmem
    obtain ⟨check, hcheck, hmatch⟩ := Check.exists_of_forall₂_of_mem hchecks hcheck'
    obtain ⟨schema, hschema, hpair⟩ := hmatch.exists_schema hschema'
    have hplace := mem_of_mem_schemas hcheck hschema
    refine ⟨schema, hid.tail ⟨node, hnode, hnodes.valid ▸ hboolean, ?_⟩, hpair⟩
    split at hplace
    · exact List.mem_append_right _ hplace
    · exact List.mem_append_left _ hplace

end SchemaGraph

namespace Compiler

variable {compiler : Compiler} {schema schema' : Schema} {agree : SchemaId → SchemaId → Prop}
  {validator validator' : Validator}

/-- What is paired with a schema that compiles does compile. -/
theorem compile_of_pairs (hbuiltin : compiler.constraints = Constraint.builtin)
    (h : schema.graph.Pairs schema'.graph agree) (hroot : agree schema.root schema'.root)
    (hcompile : compiler.compile schema = .ok validator) : ∃ validator', compiler.compile schema' = .ok validator' := by
  cases hcompile' : compiler.compile schema' with
  | ok validator' => exact ⟨validator', rfl⟩
  | error error =>
    obtain ⟨other, hreach, hfault⟩ := compile_atFault hbuiltin hcompile'
    obtain ⟨id, hid, hagree⟩ := SchemaGraph.exists_reachable h hroot hreach
    obtain ⟨node, node', hnode, hnode', hnodes⟩ := h id other hagree
    rcases hfault with ⟨hnone, _⟩ | ⟨made, hmade, hboolean, constraint, hmem, herror⟩
    · rw [hnode'] at hnone
      cases hnone
    · obtain rfl : made = node' := Option.some.inj (hmade.symm.trans hnode')
      rw [hbuiltin] at hmem
      obtain ⟨mediaType, htype, hjson, _⟩ := Constraint.eq_of_builtin_error hmem herror
      have htype' : node.mediaType = some mediaType := by
        have hsame : node.mediaType = made.mediaType := hnodes.facets .contentMediaType
        rw [hsame, htype]
      obtain ⟨_, hsound⟩ := compile_sound hbuiltin hcompile hid
      refine absurd (.inr ⟨node, hnode, hnodes.valid ▸ hboolean, Constraint.content, ?_, ?_⟩)
        (hsound (.unsupportedMediaType mediaType id))
      · rw [hbuiltin]
        simp [Constraint.builtin]
      · simp [Constraint.content, htype', hjson]

/-- The validators of schemas that are paired never contradict each other. -/
theorem isValid?_consistent (hbuiltin : compiler.constraints = Constraint.builtin)
    (h : schema.graph.Pairs schema'.graph agree) (hroot : agree schema.root schema'.root)
    (hcompile : compiler.compile schema = .ok validator) (hcompile' : compiler.compile schema' = .ok validator')
    {value : Json} (hvalid : value.Valid) : Consistent (validator.isValid? value) (validator'.isValid? value) := by
  rw [isValid?_eq_meaning? hcompile, isValid?_eq_meaning? hcompile', hbuiltin]
  exact SchemaGraph.fits_consistent h _ _ hroot hvalid

end Compiler

end JsonSchema
