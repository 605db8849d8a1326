import JsonSchema.Json.Equality
import JsonSchema.Json.Pointer
import JsonSchema.Proofs.Check
import JsonSchema.Proofs.Number

/-!
Equality by meaning, one layer of a value at a time, and the values that a document can hold.
-/
namespace JsonSchema

namespace Json

mutual

/-- What a document can hold: all numbers are ones that it can hold, and no object has two members of one name. -/
def Valid : Json → Prop
  | number n => n.Valid
  | array items => ValidItems items
  | object members => (Members.names members).Nodup ∧ ValidMembers members
  | _ => True

def ValidItems : List Json → Prop
  | [] => True
  | item :: rest => item.Valid ∧ ValidItems rest

def ValidMembers : Members Json → Prop
  | [] => True
  | (_, value) :: rest => value.Valid ∧ ValidMembers rest

end

theorem validItems_iff {items : List Json} : ValidItems items ↔ ∀ item ∈ items, item.Valid := by
  induction items with
  | nil => simp [ValidItems]
  | cons item rest ih => simp [ValidItems, ih]

theorem validMembers_iff {members : Members Json} :
    ValidMembers members ↔ ∀ name value, (name, value) ∈ members → value.Valid := by
  induction members with
  | nil => simp [ValidMembers]
  | cons member rest ih =>
    obtain ⟨name, value⟩ := member
    simp only [ValidMembers, ih, List.mem_cons, Prod.mk.injEq]
    constructor
    · rintro ⟨hvalue, hrest⟩ other found (⟨rfl, rfl⟩ | hmem)
      · exact hvalue
      · exact hrest other found hmem
    · exact fun h => ⟨h name value (.inl ⟨rfl, rfl⟩), fun other found hmem => h other found (.inr hmem)⟩

theorem valid_array {items : List Json} : (array items).Valid ↔ ∀ item ∈ items, item.Valid := validItems_iff

theorem valid_object {members : Members Json} :
    (object members).Valid ↔
      (Members.names members).Nodup ∧ ∀ name value, (name, value) ∈ members → value.Valid :=
  and_congr_right fun _ => validMembers_iff

/-- What passes from a value to its parts. -/
structure Inherited (holds : Json → Prop) : Prop where
  items : ∀ items, holds (array items) → ∀ item ∈ items, holds item
  members : ∀ members, holds (object members) → ∀ name value, (name, value) ∈ members → holds value

theorem Inherited.part? {holds : Json → Prop} (hparts : Inherited holds) {value part : Json} (h : holds value)
    {segment : List Char} (hpart : Pointer.part? segment value = some part) : holds part := by
  cases value with
  | array items =>
    obtain ⟨index, _, hitem⟩ := Option.bind_eq_some_iff.mp hpart
    exact hparts.items items h part (List.mem_of_getElem? hitem)
  | object members => exact hparts.members members h _ part (Members.mem_of_find? hpart)
  | _ => cases hpart

theorem Inherited.at? {holds : Json → Prop} (hparts : Inherited holds) {value part : Json} (h : holds value)
    {pointer : String} (hpart : value.at? pointer = some part) : holds part := by
  obtain ⟨segments, hsegments, hfollow⟩ := Option.bind_eq_some_iff.mp hpart
  clear hpart hsegments
  induction segments generalizing value with
  | nil =>
    cases hfollow
    exact h
  | cons segment rest ih =>
    obtain ⟨mid, hmid, hrest⟩ := Option.bind_eq_some_iff.mp hfollow
    exact ih (hparts.part? h hmid) hrest

theorem Valid.at? {value part : Json} (h : value.Valid) {pointer : String} (hpart : value.at? pointer = some part) :
    part.Valid :=
  Inherited.at? ⟨fun _ => valid_array.mp, fun _ hvalid => (valid_object.mp hvalid).2⟩ h hpart

theorem inductionOn {motive : Json → Prop} (value : Json) (null : motive null) (bool : ∀ b, motive (bool b))
    (number : ∀ n, motive (number n)) (string : ∀ s, motive (string s))
    (array : ∀ items, (∀ item ∈ items, motive item) → motive (array items))
    (object : ∀ members, (∀ name value, (name, value) ∈ members → motive value) → motive (object members)) :
    motive value := by
  induction hdepth : value.depth using Nat.strong_induction_on generalizing value with
  | _ depth ih =>
    cases value with
    | null => exact null
    | bool b => exact bool b
    | number n => exact number n
    | string s => exact string s
    | array items => exact array items fun item hmem => ih _ (hdepth ▸ Check.depth_lt_of_mem_array hmem) item rfl
    | object members =>
      exact object members fun name value hmem => ih _ (hdepth ▸ Check.depth_lt_of_mem_object hmem) value rfl

variable {a b c : Json}

theorem itemsEqual_iff {as bs : List Json} :
    itemsEqual as bs = true ↔ List.Forall₂ (fun a b => a.equals b = true) as bs := by
  induction as generalizing bs with
  | nil => cases bs <;> simp [itemsEqual]
  | cons a as ih => cases bs <;> simp [itemsEqual, ih]

theorem membersAgree_iff {as bs : Members Json} :
    membersAgree as bs = true ↔
      ∀ name a, (name, a) ∈ as → ∃ b, Members.find? bs name = some b ∧ a.equals b = true := by
  induction as with
  | nil => simp [membersAgree]
  | cons member rest ih =>
    obtain ⟨name, a⟩ := member
    constructor
    · intro h other found hmem
      obtain ⟨hself, hrest⟩ := Bool.and_eq_true_iff.mp h
      rcases List.mem_cons.mp hmem with heq | hmem
      · obtain ⟨rfl, rfl⟩ := Prod.mk.inj heq
        cases hfind : Members.find? bs other with
        | none => simp [hfind] at hself
        | some b => exact ⟨b, rfl, by simpa [hfind] using hself⟩
      · exact ih.mp hrest other found hmem
    · intro h
      obtain ⟨b, hfind, heq⟩ := h name a (by simp)
      simp only [membersAgree, hfind, heq, Bool.true_and]
      exact ih.mpr fun other found hmem => h other found (List.mem_cons_of_mem _ hmem)

theorem equals_array {as : List Json} :
    (array as).equals b = true ↔ ∃ bs, b = array bs ∧ List.Forall₂ (fun a b => a.equals b = true) as bs := by
  cases b <;> simp [equals, itemsEqual_iff]

theorem equals_object {as : Members Json} :
    (object as).equals b = true ↔ ∃ bs, b = object bs ∧ as.length = bs.length ∧
      ∀ name a, (name, a) ∈ as → ∃ b, Members.find? bs name = some b ∧ a.equals b = true := by
  cases b <;> simp [equals, membersAgree_iff]

theorem equals_number {n : Number} : (number n).equals b = true ↔ ∃ m, b = number m ∧ n.equals m = true := by
  cases b <;> simp [equals]

theorem forall₂_imp_of_mem {α β : Type} {r s : α → β → Prop} {as : List α} {bs : List β}
    (h : List.Forall₂ r as bs) (himp : ∀ a ∈ as, ∀ b ∈ bs, r a b → s a b) : List.Forall₂ s as bs := by
  obtain ⟨hlength, hzip⟩ := List.forall₂_iff_zip.mp h
  refine List.forall₂_iff_zip.mpr ⟨hlength, fun hmem => ?_⟩
  obtain ⟨ha, hb⟩ := List.of_mem_zip hmem
  exact himp _ ha _ hb (hzip hmem)

end Json

end JsonSchema
