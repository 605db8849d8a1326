import JsonSchema.Proofs.Distinct

/-!
Checks on values that are alike. Two checks that ask the same of schemas which answer alike give the same answer on
values which are alike, in whatever order schemas and members are listed; only that the answer comes in time may depend
on the order.
-/
namespace JsonSchema

/-- A relation between values that can be followed into arrays and objects. -/
structure Likeness (alike : Json → Json → Prop) : Prop where
  symm : ∀ {a b : Json}, alike a b → alike b a
  string : ∀ s : String, alike (.string s) (.string s)
  array : ∀ {as : List Json} {b : Json}, alike (.array as) b → ∃ bs, b = .array bs ∧ List.Forall₂ alike as bs
  object : ∀ {as : Members Json} {b : Json}, alike (.object as) b → ∃ bs, b = .object bs ∧
    (∀ name, Option.Rel alike (Members.find? as name) (Members.find? bs name)) ∧
    ∀ name x, (name, x) ∈ as → ∃ y, (name, y) ∈ bs ∧ alike x y

/-- Values that a document can hold and that are equal. -/
def Json.Alike (a b : Json) : Prop := (a.Valid ∧ b.Valid) ∧ a.equals b = true

theorem Json.likeness_alike : Likeness Json.Alike where
  symm := fun ⟨⟨ha, hb⟩, heq⟩ => ⟨⟨hb, ha⟩, equals_symm ha hb heq⟩
  string s := ⟨⟨trivial, trivial⟩, beq_self_eq_true s⟩
  array := by
    rintro as b ⟨⟨ha, hb⟩, heq⟩
    obtain ⟨bs, rfl, hall⟩ := equals_array.mp heq
    refine ⟨bs, rfl, forall₂_imp_of_mem hall fun x hx y hy hxy => ?_⟩
    exact ⟨⟨valid_array.mp ha x hx, valid_array.mp hb y hy⟩, hxy⟩
  object := by
    rintro as b ⟨⟨ha, hb⟩, heq⟩
    obtain ⟨bs, rfl, hlength, hall⟩ := equals_object.mp heq
    obtain ⟨hnodup, hvalid⟩ := valid_object.mp ha
    obtain ⟨hnodup', hvalid'⟩ := valid_object.mp hb
    have hmember (name : String) (x : Json) (hx : (name, x) ∈ as) :
        ∃ y, Members.find? bs name = some y ∧ Alike x y := by
      obtain ⟨y, hy, hxy⟩ := hall name x hx
      exact ⟨y, hy, ⟨hvalid name x hx, hvalid' name y (Members.mem_of_find? hy)⟩, hxy⟩
    refine ⟨bs, rfl, fun name => ?_, fun name x hx => ?_⟩
    · cases hfind : Members.find? as name with
      | some x =>
        obtain ⟨y, hy, hxy⟩ := hmember name x (Members.mem_of_find? hfind)
        rw [hy]
        exact .some hxy
      | none =>
        cases hother : Members.find? bs name with
        | none => exact .none
        | some y =>
          obtain ⟨_, heq', _, hall'⟩ := equals_object.mp (equals_symm ha hb heq)
          cases heq'
          obtain ⟨x, hx, _⟩ := hall' name y (Members.mem_of_find? hother)
          rw [hfind] at hx
          cases hx
    · obtain ⟨y, hy, hxy⟩ := hmember name x hx
      exact ⟨y, Members.mem_of_find? hy, hxy⟩

theorem Json.likeness_eq : Likeness Eq where
  symm := Eq.symm
  string _ := rfl
  array := by
    rintro as _ rfl
    exact ⟨as, rfl, List.forall₂_same.mpr fun _ _ => rfl⟩
  object := by
    rintro as _ rfl
    refine ⟨as, rfl, fun name => ?_, fun name x hmem => ⟨x, hmem, rfl⟩⟩
    cases Members.find? as name with
    | none => exact .none
    | some x => exact .some rfl

/-- A relation between answers that does not look at the order in which all of some questions are answered. -/
structure Unordered (rel : Option Bool → Option Bool → Prop) : Prop extends Compositional rel where
  all : ∀ {α β : Type} {f : α → Option Bool} {g : β → Option Bool} {as : List α} {bs : List β},
    (∀ a ∈ as, ∃ b ∈ bs, rel (f a) (g b)) → (∀ b ∈ bs, ∃ a ∈ as, rel (f a) (g b)) → rel (as.allM f) (bs.allM g)

/-- Two answers are the same if both are there. -/
def Consistent (x y : Option Bool) : Prop := ∀ a b, x = some a → y = some b → a = b

def Agreeing (x y : Option Bool) : Prop := ∃ b, x = some b ∧ y = some b

theorem allM_eq_true_iff {α : Type} {f : α → Option Bool} {as : List α} :
    as.allM f = some true ↔ ∀ a ∈ as, f a = some true := by
  induction as with
  | nil => simp [List.allM]
  | cons a as ih =>
    rw [List.allM, List.forall_mem_cons, ← ih]
    cases f a with
    | none => simp
    | some b => cases b <;> simp

theorem exists_of_allM_eq_false {α : Type} {f : α → Option Bool} {as : List α} (h : as.allM f = some false) :
    ∃ a ∈ as, f a = some false := by
  induction as with
  | nil => cases h
  | cons a as ih =>
    cases ha : f a with
    | none => simp [List.allM, ha] at h
    | some b =>
      cases b with
      | false => exact ⟨a, by simp, ha⟩
      | true =>
        obtain ⟨other, hmem, hother⟩ := ih (by simpa [List.allM, ha] using h)
        exact ⟨other, List.mem_cons_of_mem _ hmem, hother⟩

theorem exists_allM_eq_some {α : Type} {f : α → Option Bool} {as : List α} (h : ∀ a ∈ as, ∃ b, f a = some b) :
    ∃ b, as.allM f = some b := by
  induction as with
  | nil => exact ⟨true, rfl⟩
  | cons a as ih =>
    obtain ⟨b, hb⟩ := h a (by simp)
    obtain ⟨rest, hrest⟩ := ih fun other hmem => h other (List.mem_cons_of_mem _ hmem)
    cases b with
    | false => exact ⟨false, by simp [List.allM, hb]⟩
    | true => exact ⟨rest, by simp [List.allM, hb, hrest]⟩

theorem Consistent.unordered : Unordered Consistent where
  some := fun _ _ _ h h' => Option.some.inj (h.symm.trans h')
  bind := by
    intro x y f g hx hf a b ha hb
    obtain ⟨p, hp, hfa⟩ := Option.bind_eq_some_iff.mp ha
    obtain ⟨q, hq, hgb⟩ := Option.bind_eq_some_iff.mp hb
    obtain rfl := hx p q hp hq
    exact hf p a b hfa hgb
  all := by
    intro α β f g as bs hleft hright a b ha hb
    -- One that fails meets one that does not.
    cases a with
    | true =>
      cases b with
      | true => rfl
      | false =>
        obtain ⟨y, hy, hfalse⟩ := exists_of_allM_eq_false hb
        obtain ⟨x, hx, hrel⟩ := hright y hy
        exact hrel _ _ (allM_eq_true_iff.mp ha x hx) hfalse
    | false =>
      cases b with
      | false => rfl
      | true =>
        obtain ⟨x, hx, hfalse⟩ := exists_of_allM_eq_false ha
        obtain ⟨y, hy, hrel⟩ := hleft x hx
        exact hrel _ _ hfalse (allM_eq_true_iff.mp hb y hy)

theorem Agreeing.consistent {x y : Option Bool} (h : Agreeing x y) : Consistent x y := by
  rintro a b rfl rfl
  obtain ⟨c, hx, hy⟩ := h
  exact (Option.some.inj hx).trans (Option.some.inj hy).symm

theorem Agreeing.unordered : Unordered Agreeing where
  some := fun b => ⟨b, rfl, rfl⟩
  bind := by
    rintro x y f g ⟨b, rfl, rfl⟩ hf
    exact hf b
  all := by
    intro α β f g as bs hleft hright
    have hfirst : ∀ a ∈ as, ∃ b, f a = some b := by
      intro a ha
      obtain ⟨_, _, b, hb, _⟩ := hleft a ha
      exact ⟨b, hb⟩
    have hsecond : ∀ b ∈ bs, ∃ c, g b = some c := by
      intro b hb
      obtain ⟨_, _, c, _, hc⟩ := hright b hb
      exact ⟨c, hc⟩
    obtain ⟨b, hb⟩ := exists_allM_eq_some hfirst
    obtain ⟨c, hc⟩ := exists_allM_eq_some hsecond
    have hsame : b = c := Consistent.unordered.all
      (fun a ha => (hleft a ha).imp fun _ ⟨hmem, h⟩ => ⟨hmem, h.consistent⟩)
      (fun b hb => (hright b hb).imp fun _ ⟨hmem, h⟩ => ⟨hmem, h.consistent⟩) b c hb hc
    exact ⟨b, hb, hsame ▸ hc⟩

namespace Check

variable {ρ σ α : Type} {alike : Json → Json → Prop} {agree : ρ → σ → Prop}

structure SameEntries (agree : ρ → σ → Prop) (as : List (α × ρ)) (bs : List (α × σ)) : Prop where
  left : ∀ name schema, (name, schema) ∈ as → ∃ other, (name, other) ∈ bs ∧ agree schema other
  right : ∀ name other, (name, other) ∈ bs → ∃ schema, (name, schema) ∈ as ∧ agree schema other

/-- Two checks ask the same of schemas that fit each other, and their tests give the same answers on values that are
alike. -/
inductive Matches (alike : Json → Json → Prop) (agree : ρ → σ → Prop) : Check ρ → Check σ → Prop
  | test {accepts accepts' : Json → Bool} : (∀ a b, alike a b → accepts a = accepts' b) →
    Matches alike agree (.test accepts) (.test accepts')
  | allOf {schemas : List ρ} {others : List σ} : List.Forall₂ agree schemas others →
    Matches alike agree (.allOf schemas) (.allOf others)
  | anyOf {schemas : List ρ} {others : List σ} : List.Forall₂ agree schemas others →
    Matches alike agree (.anyOf schemas) (.anyOf others)
  | oneOf {schemas : List ρ} {others : List σ} : List.Forall₂ agree schemas others →
    Matches alike agree (.oneOf schemas) (.oneOf others)
  | not {schema : ρ} {other : σ} : agree schema other → Matches alike agree (.not schema) (.not other)
  | conditional {condition : ρ} {other : σ} {consequence alternative : Option ρ} {first second : Option σ} :
    agree condition other → Option.Rel agree consequence first → Option.Rel agree alternative second →
    Matches alike agree (.conditional condition consequence alternative) (.conditional other first second)
  | every {schema : ρ} {other : σ} : agree schema other → Matches alike agree (.every schema) (.every other)
  | tuple {schemas : List ρ} {others : List σ} {rest : Additional ρ} {more : Additional σ} :
    List.Forall₂ agree schemas others → RestAgrees agree rest more →
    Matches alike agree (.tuple schemas rest) (.tuple others more)
  | contains {schema : ρ} {other : σ} : agree schema other → Matches alike agree (.contains schema) (.contains other)
  | properties {schemas : List (String × ρ)} {others : List (String × σ)} : SameEntries agree schemas others →
    Matches alike agree (.properties schemas) (.properties others)
  | patternProperties {schemas : List (Option (String → Bool) × ρ)} {others : List (Option (String → Bool) × σ)} :
    SameEntries agree schemas others → Matches alike agree (.patternProperties schemas) (.patternProperties others)
  | additionalProperties {covered covered' : String → Bool} {schema : Option ρ} {other : Option σ} :
    (∀ name, covered name = covered' name) → Option.Rel agree schema other →
    Matches alike agree (.additionalProperties covered schema) (.additionalProperties covered' other)
  | propertyNames {schema : ρ} {other : σ} : agree schema other →
    Matches alike agree (.propertyNames schema) (.propertyNames other)
  | dependencies {byTrigger : List (String × Dependency ρ)} {others : List (String × Dependency σ)} :
    SameEntries (DependencyAgrees agree) byTrigger others →
    Matches alike agree (.dependencies byTrigger) (.dependencies others)

variable {rel : Option Bool → Option Bool → Prop} {fits : ρ → Json → Option Bool} {fits' : σ → Json → Option Bool}
  {check : Check ρ} {other : Check σ} {a b : Json}

theorem not_array (hlike : Likeness alike) (hab : alike a b) (h : ∀ items, a ≠ .array items) (items : List Json) :
    b ≠ .array items := by
  rintro rfl
  obtain ⟨as, rfl, _⟩ := hlike.array (hlike.symm hab)
  exact h as rfl

theorem not_object (hlike : Likeness alike) (hab : alike a b) (h : ∀ members, a ≠ .object members)
    (members : Members Json) : b ≠ .object members := by
  rintro rfl
  obtain ⟨as, rfl, _⟩ := hlike.object (hlike.symm hab)
  exact h as rfl

def looksAtItems : Check ρ → Bool
  | every _ | tuple _ _ | contains _ => true
  | _ => false

def looksAtMembers : Check ρ → Bool
  | properties _ | patternProperties _ | additionalProperties _ _ | propertyNames _ | dependencies _ => true
  | _ => false

theorem run_of_looksAtItems (hlooks : check.looksAtItems = true) {value : Json} (h : ∀ items, value ≠ .array items) :
    check.run fits value = some true := by
  cases check with
  | every | tuple | contains =>
    cases value with
    | array items => exact absurd rfl (h items)
    | _ => rfl
  | _ => cases hlooks

theorem run_of_looksAtMembers (hlooks : check.looksAtMembers = true) {value : Json}
    (h : ∀ members, value ≠ .object members) : check.run fits value = some true := by
  cases check with
  | properties | patternProperties | additionalProperties | propertyNames | dependencies =>
    cases value with
    | object members => exact absurd rfl (h members)
    | _ => rfl
  | _ => cases hlooks

theorem run_of_array (hlike : Likeness alike) (hrel : Compositional rel) (hab : alike a b)
    (hcheck : check.looksAtItems = true) (hother : other.looksAtItems = true)
    (harray : ∀ as bs, a = .array as → b = .array bs → List.Forall₂ alike as bs →
      rel (check.run fits a) (other.run fits' b)) : rel (check.run fits a) (other.run fits' b) := by
  by_cases h : ∃ as, a = .array as
  · obtain ⟨as, rfl⟩ := h
    obtain ⟨bs, rfl, hall⟩ := hlike.array hab
    exact harray as bs rfl rfl hall
  · have hnot : ∀ items, a ≠ .array items := fun items heq => h ⟨items, heq⟩
    rw [run_of_looksAtItems hcheck hnot, run_of_looksAtItems hother (not_array hlike hab hnot)]
    exact hrel.some true

structure AlikeMembers (alike : Json → Json → Prop) (as bs : Members Json) : Prop where
  find? : ∀ name, Option.Rel alike (Members.find? as name) (Members.find? bs name)
  entries : SameEntries alike as bs

theorem alikeMembers (hlike : Likeness alike) {as bs : Members Json} (h : alike (.object as) (.object bs)) :
    AlikeMembers alike as bs := by
  obtain ⟨_, heq, hfind, hentries⟩ := hlike.object h
  cases heq
  obtain ⟨_, heq, _, hback⟩ := hlike.object (hlike.symm h)
  cases heq
  refine ⟨hfind, hentries, fun name y hy => ?_⟩
  obtain ⟨x, hx, hyx⟩ := hback name y hy
  exact ⟨x, hx, hlike.symm hyx⟩

theorem run_of_object (hlike : Likeness alike) (hrel : Compositional rel) (hab : alike a b)
    (hcheck : check.looksAtMembers = true) (hother : other.looksAtMembers = true)
    (hobject : ∀ as bs, a = .object as → b = .object bs → AlikeMembers alike as bs →
      rel (check.run fits a) (other.run fits' b)) : rel (check.run fits a) (other.run fits' b) := by
  by_cases h : ∃ as, a = .object as
  · obtain ⟨as, rfl⟩ := h
    obtain ⟨bs, rfl, _⟩ := hlike.object hab
    exact hobject as bs rfl rfl (alikeMembers hlike hab)
  · have hnot : ∀ members, a ≠ .object members := fun members heq => h ⟨members, heq⟩
    rw [run_of_looksAtMembers hcheck hnot, run_of_looksAtMembers hother (not_object hlike hab hnot)]
    exact hrel.some true

theorem forall₂_zip_alike {items items' : List Json} {schemas : List ρ} {others : List σ}
    (hitems : List.Forall₂ alike items items') (hall : List.Forall₂ agree schemas others) :
    List.Forall₂ (fun p q => (alike p.1 q.1 ∧ p.1 ∈ items) ∧ agree p.2 q.2) (items.zip schemas)
      (items'.zip others) := by
  induction hall generalizing items items' with
  | nil => simp
  | cons hab _ ih =>
    cases hitems with
    | nil => simp
    | cons hitem hrest =>
      refine .cons ⟨⟨hitem, by simp⟩, hab⟩ ((ih hrest).imp ?_)
      rintro p q ⟨⟨hlike, hmem⟩, hagree⟩
      exact ⟨⟨hlike, List.mem_cons_of_mem _ hmem⟩, hagree⟩

theorem rel_items {as bs : List Json} (hall : List.Forall₂ alike as bs) {schema : ρ} {schema' : σ}
    (hfits : ∀ x y, alike x y → x ∈ as → rel (fits schema x) (fits' schema' y)) :
    List.Forall₂ (fun x y => rel (fits schema x) (fits' schema' y)) as bs :=
  Json.forall₂_imp_of_mem hall fun x hx y _ hxy => hfits x y hxy hx

theorem SameEntries.filter {as : List (α × ρ)} {bs : List (α × σ)} (h : SameEntries agree as bs) {p p' : α → Bool}
    (hp : ∀ name, p name = p' name) :
    SameEntries agree (as.filter fun entry => p entry.1) (bs.filter fun entry => p' entry.1) := by
  constructor
  · intro name schema hmem
    obtain ⟨hmem, hname⟩ := List.mem_filter.mp hmem
    obtain ⟨other, hother, hagree⟩ := h.left name schema hmem
    exact ⟨other, List.mem_filter.mpr ⟨hother, (hp name) ▸ hname⟩, hagree⟩
  · intro name other hmem
    obtain ⟨hmem, hname⟩ := List.mem_filter.mp hmem
    obtain ⟨schema, hschema, hagree⟩ := h.right name other hmem
    exact ⟨schema, List.mem_filter.mpr ⟨hschema, (hp name) ▸ hname⟩, hagree⟩

theorem SameEntries.allM (hrel : Unordered rel) {as : List (α × ρ)} {bs : List (α × σ)} (h : SameEntries agree as bs)
    {f : α × ρ → Option Bool} {g : α × σ → Option Bool}
    (hone : ∀ name schema other, agree schema other → (name, schema) ∈ as → rel (f (name, schema)) (g (name, other))) :
    rel (as.allM f) (bs.allM g) := by
  refine hrel.all ?_ ?_
  · rintro ⟨name, schema⟩ hmem
    obtain ⟨other, hmem', hagree⟩ := h.left name schema hmem
    exact ⟨(name, other), hmem', hone name schema other hagree hmem⟩
  · rintro ⟨name, other⟩ hmem
    obtain ⟨schema, hmem', hagree⟩ := h.right name other hmem
    exact ⟨(name, schema), hmem', hone name schema other hagree hmem'⟩

theorem contains_alike {as bs : Members Json} (halike : AlikeMembers alike as bs) (name : String) :
    Members.contains as name = Members.contains bs name := by
  have hfind := halike.find? name
  rw [Members.contains, Members.contains]
  generalize Members.find? as name = x at hfind ⊢
  generalize Members.find? bs name = y at hfind ⊢
  cases hfind <;> rfl

theorem sameEntries_self {agree : ρ → ρ → Prop} {as : List (α × ρ)}
    (h : ∀ name schema, (name, schema) ∈ as → agree schema schema) : SameEntries agree as as :=
  ⟨fun name schema hmem => ⟨schema, hmem, h name schema hmem⟩,
    fun name schema hmem => ⟨schema, hmem, h name schema hmem⟩⟩

theorem matches_self {agree : ρ → ρ → Prop} (check : Check ρ) (hagree : ∀ schema ∈ check.schemas, agree schema schema)
    (htests : ∀ accepts, check = .test accepts → ∀ a b, alike a b → accepts a = accepts b) :
    Matches alike agree check check := by
  have hlist {schemas : List ρ} (h : ∀ schema ∈ schemas, agree schema schema) : List.Forall₂ agree schemas schemas :=
    List.forall₂_same.mpr h
  have hoption {schema : Option ρ} (h : ∀ other ∈ schema.toList, agree other other) :
      Option.Rel agree schema schema := by
    cases schema with
    | none => exact .none
    | some schema => exact .some (h schema (by simp))
  have hrest {rest : Additional ρ} (h : ∀ schema ∈ rest.schemas, agree schema schema) : RestAgrees agree rest rest := by
    cases rest with
    | allowed => exact .allowed
    | forbidden => exact .forbidden
    | schema schema => exact .schema (h schema (List.mem_singleton_self schema))
  cases check with
  | test accepts => exact .test (htests accepts rfl)
  | allOf schemas => exact .allOf (hlist hagree)
  | anyOf schemas => exact .anyOf (hlist hagree)
  | oneOf schemas => exact .oneOf (hlist hagree)
  | not schema => exact .not (hagree schema (List.mem_singleton_self schema))
  | conditional condition consequence alternative =>
    refine .conditional (hagree _ (by simp [schemas])) (hoption fun other hmem => ?_) (hoption fun other hmem => ?_)
    · exact hagree other (List.mem_append_left _ (List.mem_cons_of_mem _ hmem))
    · exact hagree other (List.mem_append_right _ hmem)
  | every schema => exact .every (hagree schema (List.mem_singleton_self schema))
  | tuple schemas rest =>
    refine .tuple (hlist fun schema hmem => ?_) (hrest fun schema hmem => ?_)
    · exact hagree schema (List.mem_append_left _ hmem)
    · exact hagree schema (List.mem_append_right _ hmem)
  | contains schema => exact .contains (hagree schema (List.mem_singleton_self schema))
  | properties schemas =>
    exact .properties (sameEntries_self fun _ schema hmem => hagree schema (List.mem_map.mpr ⟨_, hmem, rfl⟩))
  | patternProperties schemas =>
    exact .patternProperties (sameEntries_self fun _ schema hmem => hagree schema (List.mem_map.mpr ⟨_, hmem, rfl⟩))
  | additionalProperties covered schema => exact .additionalProperties (fun _ => rfl) (hoption hagree)
  | propertyNames schema => exact .propertyNames (hagree schema (List.mem_singleton_self schema))
  | dependencies byTrigger =>
    refine .dependencies (sameEntries_self fun name dependency hmem => ?_)
    cases dependency with
    | names others => exact .names others
    | schema schema =>
      refine .schema (hagree schema (List.mem_flatMap.mpr ⟨_, List.mem_map.mpr ⟨_, hmem, rfl⟩, ?_⟩))
      exact List.mem_singleton_self schema

section Answers

variable (hlike : Likeness alike) (hrel : Unordered rel) (hab : alike a b)

section Parts

variable (hfits : ∀ schema schema', agree schema schema' → ∀ x y : Json, alike x y → x.depth < a.depth →
  rel (fits schema x) (fits' schema' y))

include hlike hrel hab hfits

theorem run_every_alike {schema : ρ} {schema' : σ} (hagree : agree schema schema') :
    rel ((every schema).run fits a) ((every schema').run fits' b) := by
  refine run_of_array hlike hrel.toCompositional hab rfl rfl ?_
  rintro as bs rfl rfl hall
  exact hrel.allM (rel_items hall fun x y hxy hmem => hfits _ _ hagree x y hxy (depth_lt_of_mem_array hmem))

theorem run_contains_alike {schema : ρ} {schema' : σ} (hagree : agree schema schema') :
    rel ((contains schema).run fits a) ((contains schema').run fits' b) := by
  refine run_of_array hlike hrel.toCompositional hab rfl rfl ?_
  rintro as bs rfl rfl hall
  exact hrel.anyM (rel_items hall fun x y hxy hmem => hfits _ _ hagree x y hxy (depth_lt_of_mem_array hmem))

theorem run_tuple_alike {schemas : List ρ} {others : List σ} {rest : Additional ρ} {more : Additional σ}
    (hschemas : List.Forall₂ agree schemas others) (hmore : RestAgrees agree rest more) :
    rel ((tuple schemas rest).run fits a) ((tuple others more).run fits' b) := by
  refine run_of_array hlike hrel.toCompositional hab rfl rfl ?_
  rintro as bs rfl rfl hall
  have hzip : List.Forall₂ (fun p q => rel (fits p.2 p.1) (fits' q.2 q.1)) (as.zip schemas) (bs.zip others) := by
    refine (forall₂_zip_alike hall hschemas).imp ?_
    rintro ⟨x, schema⟩ ⟨y, schema'⟩ ⟨⟨hxy, hmem⟩, hagree⟩
    exact hfits schema schema' hagree x y hxy (depth_lt_of_mem_array hmem)
  refine hrel.bind (hrel.allM hzip) fun b => ?_
  cases b
  · exact hrel.some false
  cases hmore with
  | allowed => exact hrel.some true
  | forbidden =>
    simp only [if_true, hall.length_eq, hschemas.length_eq]
    exact hrel.some _
  | schema hagree =>
    have hdrop : List.Forall₂ alike (as.drop schemas.length) (bs.drop others.length) := by
      rw [← hschemas.length_eq]
      exact List.forall₂_drop _ hall
    refine hrel.allM (rel_items hdrop fun x y hxy hmem => ?_)
    exact hfits _ _ hagree x y hxy (depth_lt_of_mem_array (List.mem_of_mem_drop hmem))

theorem run_properties_alike {schemas : List (String × ρ)} {others : List (String × σ)}
    (hschemas : SameEntries agree schemas others) :
    rel ((properties schemas).run fits a) ((properties others).run fits' b) := by
  refine run_of_object hlike hrel.toCompositional hab rfl rfl ?_
  rintro as bs rfl rfl halike
  refine hschemas.allM hrel fun name schema schema' hagree _ => ?_
  have hfind := halike.find? name
  have hmem : ∀ x, Members.find? as name = some x → (name, x) ∈ as := fun _ => Members.mem_of_find?
  dsimp only
  generalize Members.find? as name = first at hfind hmem ⊢
  generalize Members.find? bs name = second at hfind ⊢
  cases hfind with
  | none => exact hrel.some true
  | some hxy => exact hfits schema schema' hagree _ _ hxy (depth_lt_of_mem_object (hmem _ rfl))

theorem run_patternProperties_alike {schemas : List (Option (String → Bool) × ρ)}
    {others : List (Option (String → Bool) × σ)} (hschemas : SameEntries agree schemas others) :
    rel ((patternProperties schemas).run fits a) ((patternProperties others).run fits' b) := by
  refine run_of_object hlike hrel.toCompositional hab rfl rfl ?_
  rintro as bs rfl rfl halike
  refine halike.entries.allM hrel fun name x y hxy hmem => ?_
  refine hschemas.allM hrel fun accepts schema schema' hagree _ => ?_
  dsimp only
  split
  · exact hfits schema schema' hagree x y hxy (depth_lt_of_mem_object hmem)
  · exact hrel.some true

theorem run_additionalProperties_alike {covered covered' : String → Bool} {schema : Option ρ} {schema' : Option σ}
    (hcovered : ∀ name, covered name = covered' name) (hschema : Option.Rel agree schema schema') :
    rel ((additionalProperties covered schema).run fits a)
      ((additionalProperties covered' schema').run fits' b) := by
  refine run_of_object hlike hrel.toCompositional hab rfl rfl ?_
  rintro as bs rfl rfl halike
  have hothers := halike.entries.filter fun name => congrArg Bool.not (hcovered name)
  refine hothers.allM hrel fun name x y hxy hmem => ?_
  cases hschema with
  | none => exact hrel.some false
  | some hagree => exact hfits _ _ hagree x y hxy (depth_lt_of_mem_object (List.mem_of_mem_filter hmem))

theorem run_propertyNames_alike {schema : ρ} {schema' : σ} (hagree : agree schema schema') :
    rel ((propertyNames schema).run fits a) ((propertyNames schema').run fits' b) := by
  refine run_of_object hlike hrel.toCompositional hab rfl rfl ?_
  rintro as bs rfl rfl halike
  refine halike.entries.allM hrel fun name x _ _ hmem => ?_
  refine hfits _ _ hagree _ _ (hlike.string name) ?_
  exact Nat.lt_of_le_of_lt (Nat.zero_le _) (depth_lt_of_mem_object hmem)

end Parts

include hlike hrel hab

theorem run_dependencies_alike {byTrigger : List (String × Dependency ρ)} {others : List (String × Dependency σ)}
    (hschemas : SameEntries (DependencyAgrees agree) byTrigger others)
    (hfits : ∀ schema schema', agree schema schema' → rel (fits schema a) (fits' schema' b)) :
    rel ((dependencies byTrigger).run fits a) ((dependencies others).run fits' b) := by
  refine run_of_object hlike hrel.toCompositional hab rfl rfl ?_
  rintro as bs rfl rfl halike
  have htriggers := hschemas.filter (contains_alike halike)
  refine htriggers.allM hrel fun name dependency dependency' hagree _ => ?_
  cases hagree with
  | names names =>
    simp only [funext (contains_alike halike)]
    exact hrel.some _
  | schema hagree => exact hfits _ _ hagree

/-- Checks that ask the same give related answers on values that are alike, if the schemas that they apply do. -/
theorem run_alike (hcheck : Matches alike agree check other)
    (hfits : ∀ schema schema', agree schema schema' → ∀ x y, alike x y → check.Passes a x →
      rel (fits schema x) (fits' schema' y)) : rel (check.run fits a) (other.run fits' b) := by
  have hself (hmoves : check.movesOn = false) (schema : ρ) (schema' : σ) (hagree : agree schema schema') :
      rel (fits schema a) (fits' schema' b) := by
    refine hfits schema schema' hagree a b hab ?_
    rw [Passes, if_neg (by simp [hmoves])]
  cases hcheck with
  | test hsame =>
    simp only [run, hsame a b hab]
    exact hrel.some _
  | allOf hall => exact hrel.allM (hall.imp (hself rfl))
  | anyOf hall => exact hrel.anyM (hall.imp (hself rfl))
  | oneOf hall => exact hrel.exactlyOne (hall.imp (hself rfl)) false
  | not hagree => exact hrel.bind (hself rfl _ _ hagree) fun b => hrel.some _
  | conditional hcondition hfirst hsecond =>
    exact run_conditional_related hrel.toCompositional hcondition hfirst hsecond (hself rfl)
  | every hagree => exact run_every_alike hlike hrel hab hfits hagree
  | tuple hschemas hmore => exact run_tuple_alike hlike hrel hab hfits hschemas hmore
  | contains hagree => exact run_contains_alike hlike hrel hab hfits hagree
  | properties hschemas => exact run_properties_alike hlike hrel hab hfits hschemas
  | patternProperties hschemas => exact run_patternProperties_alike hlike hrel hab hfits hschemas
  | additionalProperties hcovered hschema =>
    exact run_additionalProperties_alike hlike hrel hab hfits hcovered hschema
  | propertyNames hagree => exact run_propertyNames_alike hlike hrel hab hfits hagree
  | dependencies hschemas => exact run_dependencies_alike hlike hrel hab hschemas (hself rfl)

end Answers

end Check

end JsonSchema
