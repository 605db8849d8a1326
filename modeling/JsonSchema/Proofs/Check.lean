import JsonSchema.Check
import JsonSchema.Proofs.Inquiry

/-!
Checks over different names for schemas. Two checks of the same form give related answers if the schemas in them do;
and a check asks for no more than this: in place it applies schemas to the value itself, and where it moves on it
applies them to values that are nested less deep.
-/
namespace JsonSchema

section Options

variable {α β γ δ : Type} {rel : α → β → Prop} {a c : Option α} {b d : Option β}

theorem optionRel_flip (h : Option.Rel rel a b) : Option.Rel (flip rel) b a := by
  cases h with
  | none => exact .none
  | some hab => exact .some hab

theorem optionRel_or (h : Option.Rel rel a b) (hor : Option.Rel rel c d) : Option.Rel rel (a.or c) (b.or d) := by
  cases h with
  | none => exact hor
  | some hab => exact .some hab

theorem optionRel_bind {other : γ → δ → Prop} {f : α → Option γ} {g : β → Option δ} (h : Option.Rel rel a b)
    (hfg : ∀ x y, rel x y → Option.Rel other (f x) (g y)) : Option.Rel other (a.bind f) (b.bind g) := by
  cases h with
  | none => exact .none
  | some hab => exact hfg _ _ hab

theorem bind_eq_of_optionRel {f : α → Option γ} {g : β → Option γ} (h : Option.Rel rel a b)
    (hfg : ∀ x y, rel x y → f x = g y) : a.bind f = b.bind g := by
  cases h with
  | none => rfl
  | some hab => exact hfg _ _ hab

theorem isSome_eq_of_optionRel (h : Option.Rel rel a b) : a.isSome = b.isSome := by
  cases h <;> rfl

theorem exists_of_optionRel {x : α} (h : Option.Rel rel (some x) b) : ∃ y, b = some y ∧ rel x y := by
  cases h with
  | some hab => exact ⟨_, rfl, hab⟩

end Options

/-- A relation that holds of equal answers and passes from the parts of a computation to the whole. -/
structure Compositional (rel : Option Bool → Option Bool → Prop) : Prop where
  some : ∀ b : Bool, rel (.some b) (.some b)
  bind : ∀ {x y : Option Bool} {f g : Bool → Option Bool}, rel x y → (∀ b, rel (f b) (g b)) → rel (x >>= f) (y >>= g)

/-- The second answer is there whenever the first is, and the same. -/
def Refines (x y : Option Bool) : Prop := ∀ b, x = some b → y = some b

theorem Refines.compositional : Compositional Refines where
  some := fun _ _ h => h
  bind := by
    intro x y f g hx hf b hb
    obtain ⟨a, ha, hfa⟩ := Option.bind_eq_some_iff.mp hb
    exact Option.bind_eq_some_iff.mpr ⟨a, hx a ha, hf a b hfa⟩

theorem Refines.compositional_flip : Compositional fun x y => Refines y x where
  some := fun _ _ h => h
  bind := fun hx hf => Refines.compositional.bind hx hf

namespace Compositional

variable {rel : Option Bool → Option Bool → Prop} {α β : Type}

theorem allM (h : Compositional rel) {f : α → Option Bool} {g : β → Option Bool} {as : List α} {bs : List β}
    (hall : List.Forall₂ (fun a b => rel (f a) (g b)) as bs) : rel (as.allM f) (bs.allM g) := by
  induction hall with
  | nil => exact h.some true
  | cons hab _ ih =>
    refine h.bind hab fun b => ?_
    cases b
    · exact h.some false
    · exact ih

theorem anyM (h : Compositional rel) {f : α → Option Bool} {g : β → Option Bool} {as : List α} {bs : List β}
    (hall : List.Forall₂ (fun a b => rel (f a) (g b)) as bs) : rel (as.anyM f) (bs.anyM g) := by
  induction hall with
  | nil => exact h.some false
  | cons hab _ ih =>
    refine h.bind hab fun b => ?_
    cases b
    · exact ih
    · exact h.some true

theorem exactlyOne (h : Compositional rel) {f : α → Option Bool} {g : β → Option Bool} {as : List α} {bs : List β}
    (hall : List.Forall₂ (fun a b => rel (f a) (g b)) as bs) (found : Bool) :
    rel (Check.exactlyOne f found as) (Check.exactlyOne g found bs) := by
  induction hall generalizing found with
  | nil => exact h.some found
  | cons hab _ ih =>
    refine h.bind hab fun b => ?_
    cases b
    · exact ih found
    · cases found
      · exact ih true
      · exact h.some false

theorem allM_same (h : Compositional rel) {f g : α → Option Bool} {as : List α} (hall : ∀ a ∈ as, rel (f a) (g a)) :
    rel (as.allM f) (as.allM g) :=
  h.allM (List.forall₂_same.mpr hall)

theorem anyM_same (h : Compositional rel) {f g : α → Option Bool} {as : List α} (hall : ∀ a ∈ as, rel (f a) (g a)) :
    rel (as.anyM f) (as.anyM g) :=
  h.anyM (List.forall₂_same.mpr hall)

end Compositional

namespace Check

variable {ρ σ ε : Type}

/-- Whether a check applies its schemas to parts of the value, and not to the value itself. -/
def movesOn : Check ρ → Bool
  | every _ | tuple _ _ | contains _ | properties _ | patternProperties _ | additionalProperties _ _
  | propertyNames _ => true
  | test _ | allOf _ | anyOf _ | oneOf _ | not _ | conditional _ _ _ | dependencies _ => false

/-- A check may apply a schema to the second value when it is carried out on the first. -/
def Passes (check : Check ρ) (value part : Json) : Prop :=
  if check.movesOn then part.depth < value.depth else part = value

theorem eq_or_depth_lt_of_passes {check : Check ρ} {value part : Json} (h : check.Passes value part) :
    part = value ∨ part.depth < value.depth := by
  unfold Passes at h
  split at h
  · exact .inr h
  · exact .inl h

theorem depth_lt_of_mem_array {items : List Json} {item : Json} (h : item ∈ items) :
    item.depth < (Json.array items).depth := by
  have := Json.depth_le_of_mem_items h
  simp only [Json.depth]
  omega

theorem depth_lt_of_mem_object {members : List (String × Json)} {name : String} {value : Json}
    (h : (name, value) ∈ members) : value.depth < (Json.object members).depth := by
  have := Json.depth_le_of_mem_members h
  simp only [Json.depth]
  omega

/-- The second check is the first one with a fitting answer in place of every schema. -/
def Agrees (ε : Type) (agree : ρ → σ → Prop) (check : Check ρ) (other : Check σ) : Prop :=
  Inquiry.Yields agree (check.mapM Inquiry.answer : Inquiry ε ρ σ (Check σ)) other

variable {agree : ρ → σ → Prop} {other : Check σ}

def SameNames {α : Type} (agree : ρ → σ → Prop) : α × ρ → α × σ → Prop :=
  fun a b => ∃ answer, agree a.2 answer ∧ b = (a.1, answer)

inductive RestAgrees (agree : ρ → σ → Prop) : Additional ρ → Additional σ → Prop
  | allowed : RestAgrees agree .allowed .allowed
  | forbidden : RestAgrees agree .forbidden .forbidden
  | schema {schema : ρ} {answer : σ} : agree schema answer → RestAgrees agree (.schema schema) (.schema answer)

inductive DependencyAgrees (agree : ρ → σ → Prop) : Dependency ρ → Dependency σ → Prop
  | names (names : List String) : DependencyAgrees agree (.names names) (.names names)
  | schema {schema : ρ} {answer : σ} : agree schema answer → DependencyAgrees agree (.schema schema) (.schema answer)

theorem yields_rest {rest : Additional ρ} {more : Additional σ} :
    Inquiry.Yields agree (rest.mapM Inquiry.answer : Inquiry ε ρ σ _) more ↔ RestAgrees agree rest more := by
  constructor
  · intro h
    cases rest with
    | allowed => simp_all [Additional.mapM, RestAgrees.allowed]
    | forbidden => simp_all [Additional.mapM, RestAgrees.forbidden]
    | schema schema =>
      obtain ⟨answer, hans, rfl⟩ : ∃ answer, agree schema answer ∧ more = .schema answer := by
        simpa [Additional.mapM] using h
      exact .schema hans
  · rintro (_ | _ | ⟨h⟩)
    · simp [Additional.mapM]
    · simp [Additional.mapM]
    · simpa [Additional.mapM] using h

theorem yields_dependency {dependency : Dependency ρ} {answered : Dependency σ} :
    Inquiry.Yields agree (dependency.mapM Inquiry.answer : Inquiry ε ρ σ _) answered ↔
      DependencyAgrees agree dependency answered := by
  constructor
  · intro h
    cases dependency with
    | names others => simp_all [Dependency.mapM, DependencyAgrees.names]
    | schema schema =>
      obtain ⟨answer, hans, rfl⟩ : ∃ answer, agree schema answer ∧ answered = .schema answer := by
        simpa [Dependency.mapM] using h
      exact .schema hans
  · rintro (_ | ⟨h⟩)
    · simp [Dependency.mapM]
    · simpa [Dependency.mapM] using h

theorem agrees_test {accepts : Json → Bool} : Agrees ε agree (.test accepts) other ↔ other = .test accepts := by
  simp [Agrees, mapM]

theorem agrees_allOf {schemas : List ρ} :
    Agrees ε agree (.allOf schemas) other ↔ ∃ answers, List.Forall₂ agree schemas answers ∧ other = .allOf answers := by
  simp [Agrees, mapM]

theorem agrees_anyOf {schemas : List ρ} :
    Agrees ε agree (.anyOf schemas) other ↔ ∃ answers, List.Forall₂ agree schemas answers ∧ other = .anyOf answers := by
  simp [Agrees, mapM]

theorem agrees_oneOf {schemas : List ρ} :
    Agrees ε agree (.oneOf schemas) other ↔ ∃ answers, List.Forall₂ agree schemas answers ∧ other = .oneOf answers := by
  simp [Agrees, mapM]

theorem agrees_not {schema : ρ} :
    Agrees ε agree (.not schema) other ↔ ∃ answer, agree schema answer ∧ other = .not answer := by
  simp [Agrees, mapM]

theorem agrees_conditional {condition : ρ} {consequence alternative : Option ρ} :
    Agrees ε agree (.conditional condition consequence alternative) other ↔
      ∃ answer, agree condition answer ∧ ∃ first, Option.Rel agree consequence first ∧
        ∃ second, Option.Rel agree alternative second ∧ other = .conditional answer first second := by
  simp [Agrees, mapM]

theorem agrees_every {schema : ρ} :
    Agrees ε agree (.every schema) other ↔ ∃ answer, agree schema answer ∧ other = .every answer := by
  simp [Agrees, mapM]

theorem agrees_tuple {schemas : List ρ} {rest : Additional ρ} :
    Agrees ε agree (.tuple schemas rest) other ↔
      ∃ answers, List.Forall₂ agree schemas answers ∧
        ∃ more, RestAgrees agree rest more ∧ other = .tuple answers more := by
  simp [Agrees, mapM, yields_rest]

theorem agrees_contains {schema : ρ} :
    Agrees ε agree (.contains schema) other ↔ ∃ answer, agree schema answer ∧ other = .contains answer := by
  simp [Agrees, mapM]

theorem agrees_properties {schemas : List (String × ρ)} :
    Agrees ε agree (.properties schemas) other ↔
      ∃ answers, List.Forall₂ (SameNames agree) schemas answers ∧ other = .properties answers := by
  simp only [Agrees, mapM, Inquiry.yields_bind, Inquiry.yields_mapM, Inquiry.yields_answer, Inquiry.pure_eq,
    Inquiry.yields_done]
  rfl

theorem agrees_patternProperties {schemas : List (Option (String → Bool) × ρ)} :
    Agrees ε agree (.patternProperties schemas) other ↔
      ∃ answers, List.Forall₂ (SameNames agree) schemas answers ∧ other = .patternProperties answers := by
  simp only [Agrees, mapM, Inquiry.yields_bind, Inquiry.yields_mapM, Inquiry.yields_answer, Inquiry.pure_eq,
    Inquiry.yields_done]
  rfl

theorem agrees_additionalProperties {covered : String → Bool} {schema : Option ρ} :
    Agrees ε agree (.additionalProperties covered schema) other ↔
      ∃ answer, Option.Rel agree schema answer ∧ other = .additionalProperties covered answer := by
  simp [Agrees, mapM]

theorem agrees_propertyNames {schema : ρ} :
    Agrees ε agree (.propertyNames schema) other ↔ ∃ answer, agree schema answer ∧ other = .propertyNames answer := by
  simp [Agrees, mapM]

theorem agrees_dependencies {byTrigger : List (String × Dependency ρ)} :
    Agrees ε agree (.dependencies byTrigger) other ↔
      ∃ answers, List.Forall₂ (SameNames (DependencyAgrees agree)) byTrigger answers ∧
        other = .dependencies answers := by
  simp only [Agrees, mapM, Inquiry.yields_bind, Inquiry.yields_mapM, yields_dependency, Inquiry.pure_eq,
    Inquiry.yields_done]
  rfl

theorem sameNames_same {α : Type} {agree : ρ → ρ → Prop} (h : ∀ schema, agree schema schema) (as : List (α × ρ)) :
    List.Forall₂ (SameNames agree) as as :=
  List.forall₂_same.mpr fun a _ => ⟨a.2, h a.2, rfl⟩

/-- Every check agrees with itself. -/
theorem agrees_self (check : Check ρ) : Agrees ε Eq check check := by
  have hlist (schemas : List ρ) : List.Forall₂ Eq schemas schemas := List.forall₂_same.mpr fun _ _ => rfl
  have hoption (schema : Option ρ) : Option.Rel Eq schema schema := by
    cases schema with
    | none => exact .none
    | some schema => exact .some rfl
  have hdependency (dependency : Dependency ρ) : DependencyAgrees Eq dependency dependency := by
    cases dependency with
    | names others => exact .names others
    | schema schema => exact .schema rfl
  cases check with
  | test accepts => exact agrees_test.mpr rfl
  | allOf schemas => exact agrees_allOf.mpr ⟨_, hlist schemas, rfl⟩
  | anyOf schemas => exact agrees_anyOf.mpr ⟨_, hlist schemas, rfl⟩
  | oneOf schemas => exact agrees_oneOf.mpr ⟨_, hlist schemas, rfl⟩
  | not schema => exact agrees_not.mpr ⟨_, rfl, rfl⟩
  | conditional condition consequence alternative =>
    exact agrees_conditional.mpr ⟨_, rfl, _, hoption consequence, _, hoption alternative, rfl⟩
  | every schema => exact agrees_every.mpr ⟨_, rfl, rfl⟩
  | tuple schemas rest =>
    refine agrees_tuple.mpr ⟨_, hlist schemas, rest, ?_, rfl⟩
    cases rest with
    | allowed => exact .allowed
    | forbidden => exact .forbidden
    | schema schema => exact .schema rfl
  | contains schema => exact agrees_contains.mpr ⟨_, rfl, rfl⟩
  | properties schemas => exact agrees_properties.mpr ⟨_, sameNames_same (fun _ => rfl) schemas, rfl⟩
  | patternProperties schemas => exact agrees_patternProperties.mpr ⟨_, sameNames_same (fun _ => rfl) schemas, rfl⟩
  | additionalProperties covered schema => exact agrees_additionalProperties.mpr ⟨_, hoption schema, rfl⟩
  | propertyNames schema => exact agrees_propertyNames.mpr ⟨_, rfl, rfl⟩
  | dependencies byTrigger => exact agrees_dependencies.mpr ⟨_, sameNames_same hdependency byTrigger, rfl⟩

theorem values_sameNames {α : Type} {as : List (α × ρ)} {bs : List (α × σ)} (h : List.Forall₂ (SameNames agree) as bs) :
    List.Forall₂ agree (as.map Prod.snd) (bs.map Prod.snd) := by
  induction h with
  | nil => exact .nil
  | cons hab _ ih =>
    obtain ⟨answer, hans, rfl⟩ := hab
    exact .cons hans ih

theorem toList_rel {schema : Option ρ} {answer : Option σ} (h : Option.Rel agree schema answer) :
    List.Forall₂ agree schema.toList answer.toList := by
  cases h with
  | none => exact .nil
  | some hab => exact .cons hab .nil

theorem exists_of_forall₂_of_mem {as : List ρ} {bs : List σ} (h : List.Forall₂ agree as bs) {b : σ} (hmem : b ∈ bs) :
    ∃ a ∈ as, agree a b := by
  induction h with
  | nil => cases hmem
  | cons hab _ ih =>
    rcases List.mem_cons.mp hmem with rfl | hmem
    · exact ⟨_, by simp, hab⟩
    · obtain ⟨a, ha, hagree⟩ := ih hmem
      exact ⟨a, List.mem_cons_of_mem _ ha, hagree⟩

theorem exists_right_of_forall₂ {as : List ρ} {bs : List σ} (h : List.Forall₂ agree as bs) {a : ρ} (hmem : a ∈ as) :
    ∃ b ∈ bs, agree a b :=
  have hflip : List.Forall₂ (flip agree) bs as := h.flip
  exists_of_forall₂_of_mem hflip hmem

theorem RestAgrees.schemas {rest : Additional ρ} {more : Additional σ} (h : RestAgrees agree rest more) :
    List.Forall₂ agree rest.schemas more.schemas := by
  cases h with
  | allowed => exact .nil
  | forbidden => exact .nil
  | schema hab => exact .cons hab .nil

theorem DependencyAgrees.schemas {dependency : Dependency ρ} {answered : Dependency σ}
    (h : DependencyAgrees agree dependency answered) : List.Forall₂ agree dependency.schemas answered.schemas := by
  cases h with
  | names => exact .nil
  | schema hab => exact .cons hab .nil

theorem Agrees.schemas {check : Check ρ} (h : Agrees ε agree check other) :
    List.Forall₂ agree check.schemas other.schemas := by
  cases check with
  | test accepts =>
    obtain rfl := agrees_test.mp h
    exact .nil
  | allOf schemas =>
    obtain ⟨answers, hall, rfl⟩ := agrees_allOf.mp h
    exact hall
  | anyOf schemas =>
    obtain ⟨answers, hall, rfl⟩ := agrees_anyOf.mp h
    exact hall
  | oneOf schemas =>
    obtain ⟨answers, hall, rfl⟩ := agrees_oneOf.mp h
    exact hall
  | not schema =>
    obtain ⟨answer, hans, rfl⟩ := agrees_not.mp h
    exact .cons hans .nil
  | conditional condition consequence alternative =>
    obtain ⟨answer, hans, first, hfirst, second, hsecond, rfl⟩ := agrees_conditional.mp h
    exact .cons hans (List.rel_append (toList_rel hfirst) (toList_rel hsecond))
  | every schema =>
    obtain ⟨answer, hans, rfl⟩ := agrees_every.mp h
    exact .cons hans .nil
  | tuple schemas rest =>
    obtain ⟨answers, hall, more, hmore, rfl⟩ := agrees_tuple.mp h
    exact List.rel_append hall hmore.schemas
  | contains schema =>
    obtain ⟨answer, hans, rfl⟩ := agrees_contains.mp h
    exact .cons hans .nil
  | properties schemas =>
    obtain ⟨answers, hall, rfl⟩ := agrees_properties.mp h
    exact values_sameNames hall
  | patternProperties schemas =>
    obtain ⟨answers, hall, rfl⟩ := agrees_patternProperties.mp h
    exact values_sameNames hall
  | additionalProperties covered schema =>
    obtain ⟨answer, hans, rfl⟩ := agrees_additionalProperties.mp h
    exact toList_rel hans
  | propertyNames schema =>
    obtain ⟨answer, hans, rfl⟩ := agrees_propertyNames.mp h
    exact .cons hans .nil
  | dependencies byTrigger =>
    obtain ⟨answers, hall, rfl⟩ := agrees_dependencies.mp h
    exact List.rel_flatMap (values_sameNames hall) fun _ _ hdependency => hdependency.schemas

variable {rel : Option Bool → Option Bool → Prop} {fits : ρ → Json → Option Bool} {fits' : σ → Json → Option Bool}

theorem forall₂_zip {schemas : List ρ} {others : List σ} (hall : List.Forall₂ agree schemas others)
    (items : List Json) :
    List.Forall₂ (fun a b => a.1 = b.1 ∧ a.1 ∈ items ∧ agree a.2 b.2) (items.zip schemas) (items.zip others) := by
  induction hall generalizing items with
  | nil => simp
  | cons hab _ ih =>
    cases items with
    | nil => simp
    | cons item rest =>
      refine .cons ⟨rfl, by simp, hab⟩ ((ih rest).imp ?_)
      rintro a b ⟨heq, hmem, h⟩
      exact ⟨heq, List.mem_cons_of_mem _ hmem, h⟩

theorem forall₂_filter_name {α : Type} {as : List (String × ρ)} {bs : List (String × σ)}
    (h : List.Forall₂ (SameNames agree) as bs) (members : Members α) :
    List.Forall₂ (SameNames agree) (as.filter fun (name, _) => Members.contains members name)
      (bs.filter fun (name, _) => Members.contains members name) := by
  induction h with
  | nil => exact .nil
  | cons hab _ ih =>
    obtain ⟨answer, hans, rfl⟩ := hab
    simp only [List.filter_cons]
    split
    · exact .cons ⟨answer, hans, rfl⟩ ih
    · exact ih

theorem run_conditional_related (hrel : Compositional rel) {condition : ρ} {answer : σ}
    {consequence alternative : Option ρ} {first second : Option σ} (hcondition : agree condition answer)
    (hfirst : Option.Rel agree consequence first) (hsecond : Option.Rel agree alternative second) {a b : Json}
    (hfits : ∀ schema answer, agree schema answer → rel (fits schema a) (fits' answer b)) :
    rel ((conditional condition consequence alternative).run fits a)
      ((conditional answer first second).run fits' b) := by
  refine hrel.bind (hfits _ _ hcondition) fun accepted => ?_
  cases accepted
  · cases hsecond with
    | none => exact hrel.some true
    | some hab => exact hfits _ _ hab
  · cases hfirst with
    | none => exact hrel.some true
    | some hab => exact hfits _ _ hab

section Parts

variable (hrel : Compositional rel) {value : Json} (hfits : ∀ schema answer, agree schema answer →
  ∀ part : Json, part.depth < value.depth → rel (fits schema part) (fits' answer part))

include hrel hfits

theorem run_every_related {schema : ρ} {answer : σ} (hagree : agree schema answer) :
    rel ((every schema).run fits value) ((every answer).run fits' value) := by
  cases value with
  | array items => exact hrel.allM_same fun item hmem => hfits _ _ hagree item (depth_lt_of_mem_array hmem)
  | _ => exact hrel.some true

theorem run_contains_related {schema : ρ} {answer : σ} (hagree : agree schema answer) :
    rel ((contains schema).run fits value) ((contains answer).run fits' value) := by
  cases value with
  | array items => exact hrel.anyM_same fun item hmem => hfits _ _ hagree item (depth_lt_of_mem_array hmem)
  | _ => exact hrel.some true

theorem run_tuple_related {schemas : List ρ} {answers : List σ} {rest : Additional ρ} {more : Additional σ}
    (hall : List.Forall₂ agree schemas answers) (hmore : RestAgrees agree rest more) :
    rel ((tuple schemas rest).run fits value) ((tuple answers more).run fits' value) := by
  cases value with
  | array items =>
    have hzip := (forall₂_zip hall items).imp (S := fun a b => rel (fits a.2 a.1) (fits' b.2 b.1)) <| by
      rintro ⟨item, schema⟩ ⟨_, answer⟩ ⟨rfl, hmem, hab⟩
      exact hfits schema answer hab item (depth_lt_of_mem_array hmem)
    refine hrel.bind (hrel.allM hzip) fun b => ?_
    cases b
    · exact hrel.some false
    cases hmore with
    | allowed => exact hrel.some true
    | forbidden =>
      simp only [if_true, hall.length_eq]
      exact hrel.some _
    | schema hab =>
      simp only [if_true, hall.length_eq]
      exact hrel.allM_same fun item hmem =>
        hfits _ _ hab item (depth_lt_of_mem_array (List.mem_of_mem_drop hmem))
  | _ => exact hrel.some true

theorem run_properties_related {schemas : List (String × ρ)} {answers : List (String × σ)}
    (hall : List.Forall₂ (SameNames agree) schemas answers) :
    rel ((properties schemas).run fits value) ((properties answers).run fits' value) := by
  cases value with
  | object members =>
    refine hrel.allM (hall.imp ?_)
    rintro ⟨name, schema⟩ _ ⟨answer, hans, rfl⟩
    simp only
    cases hfind : Members.find? members name with
    | none => exact hrel.some true
    | some part => exact hfits _ _ hans part (depth_lt_of_mem_object (Members.mem_of_find? hfind))
  | _ => exact hrel.some true

theorem run_patternProperties_related {schemas : List (Option (String → Bool) × ρ)}
    {answers : List (Option (String → Bool) × σ)} (hall : List.Forall₂ (SameNames agree) schemas answers) :
    rel ((patternProperties schemas).run fits value) ((patternProperties answers).run fits' value) := by
  cases value with
  | object members =>
    refine hrel.allM_same ?_
    rintro ⟨name, part⟩ hmem
    refine hrel.allM (hall.imp ?_)
    rintro ⟨accepts, schema⟩ _ ⟨answer, hans, rfl⟩
    simp only
    split
    · exact hfits _ _ hans part (depth_lt_of_mem_object hmem)
    · exact hrel.some true
  | _ => exact hrel.some true

theorem run_additionalProperties_related {covered : String → Bool} {schema : Option ρ} {answer : Option σ}
    (hagree : Option.Rel agree schema answer) :
    rel ((additionalProperties covered schema).run fits value)
      ((additionalProperties covered answer).run fits' value) := by
  cases value with
  | object members =>
    refine hrel.allM_same ?_
    rintro ⟨name, part⟩ hmem
    cases hagree with
    | none => exact hrel.some false
    | some hab => exact hfits _ _ hab part (depth_lt_of_mem_object (List.mem_of_mem_filter hmem))
  | _ => exact hrel.some true

theorem run_propertyNames_related {schema : ρ} {answer : σ} (hagree : agree schema answer) :
    rel ((propertyNames schema).run fits value) ((propertyNames answer).run fits' value) := by
  cases value with
  | object members =>
    refine hrel.allM_same ?_
    rintro ⟨name, part⟩ hmem
    exact hfits _ _ hagree (.string name) (Nat.lt_of_le_of_lt (Nat.zero_le _) (depth_lt_of_mem_object hmem))
  | _ => exact hrel.some true

end Parts

theorem run_dependencies_related (hrel : Compositional rel) {byTrigger : List (String × Dependency ρ)}
    {answers : List (String × Dependency σ)}
    (hall : List.Forall₂ (SameNames (DependencyAgrees agree)) byTrigger answers)
    {value : Json} (hfits : ∀ schema answer, agree schema answer → rel (fits schema value) (fits' answer value)) :
    rel ((dependencies byTrigger).run fits value) ((dependencies answers).run fits' value) := by
  cases value with
  | object members =>
    refine hrel.allM ((forall₂_filter_name hall members).imp ?_)
    rintro ⟨name, dependency⟩ _ ⟨answer, hans, rfl⟩
    cases hans with
    | names others => exact hrel.some _
    | schema hab => exact hfits _ _ hab
  | _ => exact hrel.some true

/-- Related answers to the schemas of a check make related answers to the check. -/
theorem run_related (hrel : Compositional rel) {check : Check ρ} (hcheck : Agrees ε agree check other) {value : Json}
    (hfits : ∀ schema answer, agree schema answer → ∀ part, check.Passes value part →
      rel (fits schema part) (fits' answer part)) : rel (check.run fits value) (other.run fits' value) := by
  cases check with
  | test accepts =>
    obtain rfl := agrees_test.mp hcheck
    exact hrel.some _
  | allOf schemas =>
    obtain ⟨answers, hall, rfl⟩ := agrees_allOf.mp hcheck
    exact hrel.allM (hall.imp fun a b hab => hfits a b hab value rfl)
  | anyOf schemas =>
    obtain ⟨answers, hall, rfl⟩ := agrees_anyOf.mp hcheck
    exact hrel.anyM (hall.imp fun a b hab => hfits a b hab value rfl)
  | oneOf schemas =>
    obtain ⟨answers, hall, rfl⟩ := agrees_oneOf.mp hcheck
    exact hrel.exactlyOne (hall.imp fun a b hab => hfits a b hab value rfl) false
  | not schema =>
    obtain ⟨answer, hans, rfl⟩ := agrees_not.mp hcheck
    exact hrel.bind (hfits _ _ hans value rfl) fun b => hrel.some _
  | conditional condition consequence alternative =>
    obtain ⟨answer, hans, first, hfirst, second, hsecond, rfl⟩ := agrees_conditional.mp hcheck
    exact run_conditional_related hrel hans hfirst hsecond fun a b hab => hfits a b hab value rfl
  | every schema =>
    obtain ⟨answer, hans, rfl⟩ := agrees_every.mp hcheck
    exact run_every_related hrel hfits hans
  | tuple schemas rest =>
    obtain ⟨answers, hall, more, hmore, rfl⟩ := agrees_tuple.mp hcheck
    exact run_tuple_related hrel hfits hall hmore
  | contains schema =>
    obtain ⟨answer, hans, rfl⟩ := agrees_contains.mp hcheck
    exact run_contains_related hrel hfits hans
  | properties schemas =>
    obtain ⟨answers, hall, rfl⟩ := agrees_properties.mp hcheck
    exact run_properties_related hrel hfits hall
  | patternProperties schemas =>
    obtain ⟨answers, hall, rfl⟩ := agrees_patternProperties.mp hcheck
    exact run_patternProperties_related hrel hfits hall
  | additionalProperties covered schema =>
    obtain ⟨answer, hans, rfl⟩ := agrees_additionalProperties.mp hcheck
    exact run_additionalProperties_related hrel hfits hans
  | propertyNames schema =>
    obtain ⟨answer, hans, rfl⟩ := agrees_propertyNames.mp hcheck
    exact run_propertyNames_related hrel hfits hans
  | dependencies byTrigger =>
    obtain ⟨answers, hall, rfl⟩ := agrees_dependencies.mp hcheck
    exact run_dependencies_related hrel hall fun a b hab => hfits a b hab value rfl

theorem runAll_related (hrel : Compositional rel) {checks : List (Check ρ)} {others : List (Check σ)}
    (hchecks : List.Forall₂ (Agrees ε agree) checks others) {value : Json}
    (hfits : ∀ schema answer, agree schema answer → ∀ part, part = value ∨ part.depth < value.depth →
      rel (fits schema part) (fits' answer part)) : rel (runAll fits checks value) (runAll fits' others value) := by
  refine hrel.allM (hchecks.imp fun check other hcheck => run_related hrel hcheck ?_)
  intro schema answer hagree part hpasses
  exact hfits schema answer hagree part (eq_or_depth_lt_of_passes hpasses)

end Check

end JsonSchema
