import JsonSchema.Linking.Value
import JsonSchema.Proofs.Likeness

/-!
Writing a value another way: the members of objects in another order, and numbers in other words for the same value, as
deep inside of the value as may be. Values written another way are equal.
-/
namespace JsonSchema

namespace Json

/-- The second value is the first one with members in other orders, and with other numbers that are the same. -/
inductive Rewritten (same : Number → Number → Prop) : Json → Json → Prop
  | null : Rewritten same null null
  | bool (b : Bool) : Rewritten same (bool b) (bool b)
  | number {m n : Number} : same m n → Rewritten same (number m) (number n)
  | string (s : String) : Rewritten same (string s) (string s)
  | array {as bs : List Json} : as.length = bs.length →
    (∀ (i : Nat) (a b : Json), as[i]? = some a → bs[i]? = some b → Rewritten same a b) →
    Rewritten same (array as) (array bs)
  | object {as bs : Members Json} : (Members.names as).Perm (Members.names bs) →
    (∀ name a b, (name, a) ∈ as → (name, b) ∈ bs → Rewritten same a b) → Rewritten same (object as) (object bs)

/-- The second value is the first one with members in other orders. -/
abbrev Reordered (a b : Json) : Prop := (a.Valid ∧ b.Valid) ∧ Rewritten Eq a b

namespace Rewritten

variable {same : Number → Number → Prop} {a b : Json}

theorem symm (hsame : ∀ m n, same m n → same n m) (h : Rewritten same a b) : Rewritten same b a := by
  induction h with
  | null => exact .null
  | bool b => exact .bool b
  | number hmn => exact .number (hsame _ _ hmn)
  | string s => exact .string s
  | array hlength _ ih => exact .array hlength.symm fun i b a hb ha => ih i a b ha hb
  | object hperm _ ih => exact .object hperm.symm fun name b a hb ha => ih name a b ha hb

theorem mono {more : Number → Number → Prop} (hsame : ∀ m n, same m n → more m n) (h : Rewritten same a b) :
    Rewritten more a b := by
  induction h with
  | null => exact .null
  | bool b => exact .bool b
  | number hmn => exact .number (hsame _ _ hmn)
  | string s => exact .string s
  | array hlength _ ih => exact .array hlength ih
  | object hperm _ ih => exact .object hperm ih

theorem refl (hsame : ∀ n, same n n) (ha : a.Valid) : Rewritten same a a := by
  induction a using inductionOn with
  | null => exact .null
  | bool b => exact .bool b
  | number n => exact .number (hsame n)
  | string s => exact .string s
  | array items ih =>
    refine .array rfl fun i x y hx hy => ?_
    obtain rfl := Option.some.inj (hx.symm.trans hy)
    have hmem := List.mem_of_getElem? hx
    exact ih x hmem (valid_array.mp ha x hmem)
  | object members ih =>
    obtain ⟨hnodup, hvalid⟩ := valid_object.mp ha
    refine .object (.refl _) fun name x y hx hy => ?_
    obtain rfl := Option.some.inj ((Members.find?_of_mem hnodup hx).symm.trans (Members.find?_of_mem hnodup hy))
    exact ih name x hx (hvalid name x hx)

theorem of_perm {as bs cs : Members Json} (hnodup : (Members.names as).Nodup) (hperm : bs.Perm cs)
    (hall : List.Forall₂ (fun x y => x.1 = y.1 ∧ Rewritten same x.2 y.2) as bs) :
    Rewritten same (Json.object as) (Json.object cs) := by
  have hnames : Members.names as = Members.names bs := by
    clear hperm
    induction hall with
    | nil => rfl
    | cons hhead _ ih => exact congrArg₂ List.cons hhead.1 (ih (List.nodup_cons.mp hnodup).2)
  refine .object (hnames ▸ hperm.map Prod.fst) fun name a c ha hc => ?_
  obtain ⟨i, hi, hget⟩ := List.mem_iff_getElem.mp (hperm.mem_iff.mpr hc)
  have hi' : i < as.length := hall.length_eq ▸ hi
  obtain ⟨hname, hrewritten⟩ := hall.get hi' hi
  simp only [List.get_eq_getElem, hget] at hname hrewritten
  have hfound : (name, as[i].2) ∈ as := hname ▸ List.getElem_mem hi'
  obtain rfl := Option.some.inj ((Members.find?_of_mem hnodup ha).symm.trans (Members.find?_of_mem hnodup hfound))
  exact hrewritten

theorem forall₂ {as bs : List Json} (hlength : as.length = bs.length)
    (h : ∀ (i : Nat) (a b : Json), as[i]? = some a → bs[i]? = some b → Rewritten same a b) :
    List.Forall₂ (Rewritten same) as bs := by
  refine List.forall₂_iff_get.mpr ⟨hlength, fun i hi hi' => h i _ _ ?_ ?_⟩
  · exact List.getElem?_eq_getElem hi
  · exact List.getElem?_eq_getElem hi'

theorem exists_find? {as bs : Members Json} (hperm : (Members.names as).Perm (Members.names bs))
    (hnodup : (Members.names bs).Nodup) {name : String} {x : Json} (hmem : (name, x) ∈ as) :
    ∃ y, Members.find? bs name = some y ∧ (name, y) ∈ bs := by
  have hname : name ∈ Members.names bs := hperm.mem_iff.mp (List.mem_map.mpr ⟨_, hmem, rfl⟩)
  obtain ⟨y, hy⟩ := Members.mem_names_iff.mp hname
  exact ⟨y, Members.find?_of_mem hnodup hy, hy⟩

theorem equals (h : Rewritten (fun m n => m.units = n.units) a b) (ha : a.Valid) (hb : b.Valid) :
    a.equals b = true := by
  induction h with
  | null => rfl
  | bool b => exact beq_self_eq_true b
  | number hmn => exact (Number.equals_iff ha hb).mpr hmn
  | string s => exact beq_self_eq_true s
  | @array as bs hlength hall ih =>
    refine equals_array.mpr ⟨bs, rfl, List.forall₂_iff_get.mpr ⟨hlength, fun i hi hi' => ?_⟩⟩
    refine ih i _ _ (List.getElem?_eq_getElem hi) (List.getElem?_eq_getElem hi') ?_ ?_
    · exact valid_array.mp ha _ (List.getElem_mem hi)
    · exact valid_array.mp hb _ (List.getElem_mem hi')
  | @object as bs hperm hall ih =>
    have hlength : as.length = bs.length := by simpa [Members.names] using hperm.length_eq
    refine equals_object.mpr ⟨bs, rfl, hlength, fun name x hx => ?_⟩
    obtain ⟨y, hfind, hy⟩ := exists_find? hperm (valid_object.mp hb).1 hx
    exact ⟨y, hfind, ih name x y hx hy ((valid_object.mp ha).2 name x hx) ((valid_object.mp hb).2 name y hy)⟩

end Rewritten

theorem likeness_reordered : Likeness Reordered where
  symm := fun ⟨⟨ha, hb⟩, h⟩ => ⟨⟨hb, ha⟩, h.symm fun _ _ => Eq.symm⟩
  string s := ⟨⟨trivial, trivial⟩, .string s⟩
  array := by
    rintro as b ⟨⟨ha, hb⟩, h⟩
    cases h with
    | @array _ bs hlength hall =>
      refine ⟨bs, rfl, forall₂_imp_of_mem (Rewritten.forall₂ hlength hall) fun x hx y hy hxy => ?_⟩
      exact ⟨⟨valid_array.mp ha x hx, valid_array.mp hb y hy⟩, hxy⟩
  object := by
    rintro as b ⟨⟨ha, hb⟩, h⟩
    cases h with
    | @object _ bs hperm hall =>
      obtain ⟨hnodup, hvalid⟩ := valid_object.mp ha
      obtain ⟨hnodup', hvalid'⟩ := valid_object.mp hb
      have hmember (name : String) (x : Json) (hx : (name, x) ∈ as) :
          ∃ y, Members.find? bs name = some y ∧ (name, y) ∈ bs ∧ Reordered x y := by
        obtain ⟨y, hfind, hy⟩ := Rewritten.exists_find? hperm hnodup' hx
        exact ⟨y, hfind, hy, ⟨hvalid name x hx, hvalid' name y hy⟩, hall name x y hx hy⟩
      refine ⟨bs, rfl, fun name => ?_, fun name x hx => ?_⟩
      · cases hfind : Members.find? as name with
        | some x =>
          obtain ⟨y, hy, _, hxy⟩ := hmember name x (Members.mem_of_find? hfind)
          rw [hy]
          exact .some hxy
        | none =>
          cases hother : Members.find? bs name with
          | none => exact .none
          | some y =>
            obtain ⟨x, hx, _⟩ := Rewritten.exists_find? hperm.symm hnodup (Members.mem_of_find? hother)
            rw [hfind] at hx
            cases hx
      · obtain ⟨y, _, hy, hxy⟩ := hmember name x hx
        exact ⟨y, hy, hxy⟩

namespace Reordered

variable {a b : Json}

theorem refl (ha : a.Valid) : Reordered a a := ⟨⟨ha, ha⟩, .refl (fun _ => rfl) ha⟩

theorem of_perm {as bs cs : Members Json} (hnodup : (Members.names as).Nodup) (hperm : bs.Perm cs)
    (hall : List.Forall₂ (fun x y => x.1 = y.1 ∧ Reordered x.2 y.2) as bs) :
    Reordered (object as) (object cs) := by
  have hwritten := Rewritten.of_perm hnodup hperm (hall.imp fun _ _ h => ⟨h.1, h.2.2⟩)
  refine ⟨⟨valid_object.mpr ⟨hnodup, fun name a ha => ?_⟩, valid_object.mpr ⟨?_, fun name c hc => ?_⟩⟩, hwritten⟩
  · obtain ⟨i, hi, hget⟩ := List.mem_iff_getElem.mp ha
    have hvalid := (hall.get hi (hall.length_eq ▸ hi)).2.1.1
    simpa only [List.get_eq_getElem, hget] using hvalid
  · cases hwritten with
    | object hnames => exact hnames.nodup hnodup
  · obtain ⟨i, hi, hget⟩ := List.mem_iff_getElem.mp (hperm.mem_iff.mpr hc)
    have hvalid := (hall.get (hall.length_eq ▸ hi) hi).2.1.2
    simpa only [List.get_eq_getElem, hget] using hvalid

/-- Values without parts are the same, and of others the parts are reordered. -/
inductive Shape : Json → Json → Prop
  | scalar {a : Json} : (∀ as, a ≠ array as) → (∀ as, a ≠ object as) → Shape a a
  | array {as bs : List Json} : List.Forall₂ Reordered as bs → Shape (array as) (array bs)
  | object {as bs : Members Json} : Check.AlikeMembers Reordered as bs → Shape (object as) (object bs)

theorem shape (h : Reordered a b) : Shape a b := by
  obtain ⟨_, hwritten⟩ := id h
  cases hwritten with
  | null => exact .scalar (fun _ heq => nomatch heq) fun _ heq => nomatch heq
  | bool b => exact .scalar (fun _ heq => nomatch heq) fun _ heq => nomatch heq
  | number heq =>
    subst heq
    exact .scalar (fun _ heq => nomatch heq) fun _ heq => nomatch heq
  | string s => exact .scalar (fun _ heq => nomatch heq) fun _ heq => nomatch heq
  | array =>
    obtain ⟨bs, heq, hall⟩ := likeness_reordered.array h
    exact heq ▸ .array hall
  | object => exact .object (Check.alikeMembers likeness_reordered h)

theorem congr {α : Type} (f : Json → α) {other : α} (h : Reordered a b) (harray : ∀ items, f (array items) = other)
    (hobject : ∀ members, f (object members) = other) : f a = f b := by
  cases h.shape with
  | scalar => rfl
  | array => rw [harray, harray]
  | object => rw [hobject, hobject]

variable (h : Reordered a b)

include h

theorem symm : Reordered b a := likeness_reordered.symm h

theorem equals : a.equals b = true := by
  obtain ⟨⟨ha, hb⟩, hwritten⟩ := h
  refine Rewritten.equals ?_ ha hb
  exact hwritten.mono fun m n heq => congrArg Number.units heq

theorem string?_eq : a.string? = b.string? := congr string? h (fun _ => rfl) fun _ => rfl

theorem bool?_eq : a.bool? = b.bool? := congr bool? h (fun _ => rfl) fun _ => rfl

theorem binary64?_eq : a.binary64? = b.binary64? := congr binary64? h (fun _ => rfl) fun _ => rfl

theorem divisor?_eq : a.divisor? = b.divisor? := congr divisor? h (fun _ => rfl) fun _ => rfl

theorem count?_eq : a.count? = b.count? := congr count? h (fun _ => rfl) fun _ => rfl

theorem items? : Option.Rel (List.Forall₂ Reordered) a.items? b.items? := by
  cases h.shape with
  | scalar harray _ =>
    cases a with
    | array items => exact absurd rfl (harray items)
    | _ => exact .none
  | array hall => exact .some hall
  | object => exact .none

theorem members? : Option.Rel (Check.AlikeMembers Reordered) a.members? b.members? := by
  cases h.shape with
  | scalar _ hobject =>
    cases a with
    | object members => exact absurd rfl (hobject members)
    | _ => exact .none
  | array => exact .none
  | object hmembers => exact .some hmembers

theorem exists_member {name : String} {part : Json} (hmem : (name, part) ∈ a.members?.getD []) :
    ∃ part', (name, part') ∈ b.members?.getD [] ∧ part.Reordered part' := by
  obtain ⟨members, hmembers, hpart⟩ : ∃ members, a.members? = some members ∧ (name, part) ∈ members := by
    cases hmembers : a.members? with
    | none => simp [hmembers] at hmem
    | some members => exact ⟨members, rfl, by simpa [hmembers] using hmem⟩
  obtain ⟨members', hmembers', halike⟩ := exists_of_optionRel (hmembers ▸ h.members?)
  rw [hmembers', Option.getD_some]
  exact halike.entries.left name part hpart

theorem strings?_eq : a.strings? = b.strings? := by
  cases h.shape with
  | scalar => rfl
  | array hall =>
    change List.mapM string? _ = List.mapM string? _
    clear h
    induction hall with
    | nil => rfl
    | cons hab _ ih => rw [List.mapM_cons, List.mapM_cons, hab.string?_eq, ih]
  | object => rfl

theorem member? (name : String) : Option.Rel Reordered (a.member? name) (b.member? name) := by
  cases h.shape with
  | scalar _ hobject =>
    cases a with
    | object members => exact absurd rfl (hobject members)
    | _ => exact .none
  | array => exact .none
  | object hmembers => exact hmembers.find? name

theorem part? (segment : List Char) :
    Option.Rel Reordered (Pointer.part? segment a) (Pointer.part? segment b) := by
  cases h.shape with
  | scalar harray hobject =>
    cases a with
    | array items => exact absurd rfl (harray items)
    | object members => exact absurd rfl (hobject members)
    | _ => exact .none
  | @array as bs hall =>
    cases hindex : Pointer.index? segment with
    | none => simp [Pointer.part?, hindex]
    | some i =>
      simp only [Pointer.part?, hindex, Option.bind_some]
      by_cases hi : i < as.length
      · have hi' : i < bs.length := hall.length_eq ▸ hi
        rw [List.getElem?_eq_getElem hi, List.getElem?_eq_getElem hi']
        exact .some (hall.get hi hi')
      · rw [List.getElem?_eq_none (by omega), List.getElem?_eq_none (by rw [← hall.length_eq]; omega)]
        exact .none
  | object hmembers => exact hmembers.find? _

/-- Pointers lead to the same places. -/
theorem at? (pointer : String) : Option.Rel Reordered (a.at? pointer) (b.at? pointer) := by
  unfold Json.at?
  cases Pointer.segments? pointer.toList with
  | none => exact .none
  | some segments =>
    simp only [Option.bind_some]
    induction segments generalizing a b with
    | nil => exact .some h
    | cons segment rest ih =>
      rw [Pointer.follow?, Pointer.follow?]
      exact optionRel_bind (h.part? segment) fun _ _ hpart => ih hpart

end Reordered

end Json

namespace TypeSet

theorem ofJson_reordered {a b : Json} (h : a.Reordered b) {pointer : String} {types : TypeSet}
    (hread : ofJson pointer a = .ok types) (other : String) : ofJson other b = .ok types := by
  have hnamed {name : String} {types : TypeSet} (hread : named pointer name = .ok types) :
      named other name = .ok types := by
    unfold named at hread ⊢
    split at hread <;> simp_all
  have hall {start : TypeSet} {as bs : List Json} (h : List.Forall₂ Json.Reordered as bs)
      (hread : namedAll pointer start as = .ok types) : namedAll other start bs = .ok types := by
    induction h generalizing start with
    | nil => exact hread
    | @cons a b as bs hab hrest ih =>
      cases a with
      | string name =>
        have hb : b.string? = some name := hab.string?_eq.symm
        cases b with
        | string name' =>
          obtain rfl : name' = name := Option.some.inj hb
          cases hname : named pointer name' with
          | error error => simp [namedAll, hname, bind, Except.bind] at hread
          | ok more =>
            simp only [namedAll, hname, hnamed hname, bind, Except.bind] at hread ⊢
            exact ih hread
        | _ => cases hb
      | _ => cases hread
  cases h.shape with
  | scalar harray _ =>
    cases a with
    | string name => exact hnamed hread
    | array names => exact absurd rfl (harray names)
    | _ => cases hread
  | array hitems => exact hall hitems hread
  | object => cases hread

end TypeSet

end JsonSchema
