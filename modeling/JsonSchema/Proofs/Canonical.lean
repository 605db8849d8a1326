import JsonSchema.Proofs.Equality
import Mathlib.Data.List.Nodup
import Mathlib.Data.List.Perm.Subperm

/-!
Canonical forms. A number is its exact value there and an object a map from its names to canonical forms, so nothing is
left of how a value was written. Values that documents can hold are equal if and only if they have one canonical form;
so equality is an equivalence on them, and equal values may take each other's place in every comparison.
-/
namespace JsonSchema

/-- What a value is, however it is written. An object gives a form for each name that it has. -/
inductive Canonical where
  | null
  | bool (value : Bool)
  | number (value : ℚ)
  | string (value : String)
  | array (items : List Canonical)
  | object (members : String → Option Canonical)

namespace Json

mutual

def canonical : Json → Canonical
  | null => .null
  | bool b => .bool b
  | number n => .number n.toRat
  | string s => .string s
  | array items => .array (canonicalItems items)
  | object members => .object (canonicalMembers members)

def canonicalItems : List Json → List Canonical
  | [] => []
  | item :: rest => item.canonical :: canonicalItems rest

def canonicalMembers : Members Json → String → Option Canonical
  | [], _ => none
  | (name, value) :: rest, key => if name = key then some value.canonical else canonicalMembers rest key

end

theorem canonicalItems_eq (items : List Json) : canonicalItems items = items.map canonical := by
  induction items with
  | nil => rfl
  | cons item rest ih => rw [canonicalItems, ih, List.map_cons]

theorem canonicalMembers_eq (members : Members Json) (name : String) :
    canonicalMembers members name = (Members.find? members name).map canonical := by
  induction members with
  | nil => rfl
  | cons member rest ih =>
    obtain ⟨other, value⟩ := member
    rw [canonicalMembers, Members.find?]
    split
    · rfl
    · exact ih

theorem canonical_array_eq_iff {as bs : List Json} :
    (array as).canonical = (array bs).canonical ↔ List.Forall₂ (fun a b => a.canonical = b.canonical) as bs := by
  rw [canonical, canonical, Canonical.array.injEq, canonicalItems_eq, canonicalItems_eq, ← List.forall₂_eq_eq_eq,
    List.forall₂_map_left_iff, List.forall₂_map_right_iff]

theorem canonical_object_eq_iff {as bs : Members Json} :
    (object as).canonical = (object bs).canonical ↔
      ∀ name, (Members.find? as name).map canonical = (Members.find? bs name).map canonical := by
  rw [canonical, canonical, Canonical.object.injEq, funext_iff]
  simp only [canonicalMembers_eq]

variable {a b c : Json}

theorem length_eq_of_canonical_eq {as bs : Members Json} (has : (Members.names as).Nodup)
    (hbs : (Members.names bs).Nodup) (h : (object as).canonical = (object bs).canonical) : as.length = bs.length := by
  have hsame (name : String) : name ∈ Members.names as ↔ name ∈ Members.names bs := by
    have hfind := congrArg Option.isSome (canonical_object_eq_iff.mp h name)
    rw [Option.isSome_map, Option.isSome_map] at hfind
    rw [← Members.isSome_find?_iff, ← Members.isSome_find?_iff, hfind]
  have hperm : (Members.names as).Perm (Members.names bs) := (List.perm_ext_iff_of_nodup has hbs).mpr hsame
  simpa [Members.names] using hperm.length_eq

theorem mem_names_iff_of_equals {as bs : Members Json} (has : (Members.names as).Nodup)
    (h : (object as).equals (object bs) = true) (name : String) :
    name ∈ Members.names as ↔ name ∈ Members.names bs := by
  obtain ⟨_, ⟨⟩, hlength, hall⟩ := equals_object.mp h
  have hsub : Members.names as ⊆ Members.names bs := by
    intro name hname
    obtain ⟨x, hx⟩ := Members.mem_names_iff.mp hname
    obtain ⟨y, hy, _⟩ := hall name x hx
    exact Members.mem_names_iff.mpr ⟨y, Members.mem_of_find? hy⟩
  have hperm : (Members.names as).Perm (Members.names bs) :=
    (has.subperm hsub).perm_of_length_le (by simpa [Members.names] using hlength.ge)
  exact hperm.mem_iff

theorem equals_iff_of_members {as bs : Members Json} (has : (Members.names as).Nodup) (hbs : (Members.names bs).Nodup)
    (hmembers : ∀ name x y, (name, x) ∈ as → (name, y) ∈ bs → (x.equals y = true ↔ x.canonical = y.canonical)) :
    (object as).equals (object bs) = true ↔ (object as).canonical = (object bs).canonical := by
  constructor
  · intro h
    refine canonical_object_eq_iff.mpr fun name => ?_
    cases hfind : Members.find? as name with
    | some x =>
      have hx := Members.mem_of_find? hfind
      obtain ⟨_, ⟨⟩, _, hall⟩ := equals_object.mp h
      obtain ⟨y, hy, heq⟩ := hall name x hx
      rw [hy, Option.map_some, Option.map_some, (hmembers name x y hx (Members.mem_of_find? hy)).mp heq]
    | none =>
      have hother : Members.find? bs name = none := by
        rw [← Option.not_isSome_iff_eq_none, Members.isSome_find?_iff, ← mem_names_iff_of_equals has h,
          ← Members.isSome_find?_iff, hfind]
        exact Bool.false_ne_true
      rw [hother]
  · intro h
    refine equals_object.mpr ⟨bs, rfl, length_eq_of_canonical_eq has hbs h, fun name x hx => ?_⟩
    have hforms := canonical_object_eq_iff.mp h name
    rw [Members.find?_of_mem has hx] at hforms
    obtain ⟨y, hy, heq⟩ := Option.map_eq_some_iff.mp hforms.symm
    exact ⟨y, hy, (hmembers name x y hx (Members.mem_of_find? hy)).mpr heq.symm⟩

theorem equals_iff (ha : a.Valid) (hb : b.Valid) : a.equals b = true ↔ a.canonical = b.canonical := by
  induction a using inductionOn generalizing b with
  | null => cases b <;> simp [equals, canonical]
  | bool p => cases b <;> simp [equals, canonical]
  | string s => cases b <;> simp [equals, canonical]
  | number n =>
    cases b with
    | number m => rw [equals, Number.equals_iff ha hb, canonical, canonical, Canonical.number.injEq, Number.toRat_inj]
    | _ => simp [equals, canonical]
  | array as ih =>
    cases b with
    | array bs =>
      have hitems (x : Json) (hx : x ∈ as) (y : Json) (hy : y ∈ bs) : x.equals y = true ↔ x.canonical = y.canonical :=
        ih x hx (valid_array.mp ha x hx) (valid_array.mp hb y hy)
      rw [equals, itemsEqual_iff, canonical_array_eq_iff]
      exact ⟨fun h => forall₂_imp_of_mem h fun x hx y hy => (hitems x hx y hy).mp,
        fun h => forall₂_imp_of_mem h fun x hx y hy => (hitems x hx y hy).mpr⟩
    | _ => simp [equals, canonical]
  | object as ih =>
    cases b with
    | object bs =>
      obtain ⟨has, hvalid⟩ := valid_object.mp ha
      obtain ⟨hbs, hvalid'⟩ := valid_object.mp hb
      exact equals_iff_of_members has hbs fun name x y hx hy =>
        ih name x hx (hvalid name x hx) (hvalid' name y hy)
    | _ => simp [equals, canonical]

theorem equals_refl (ha : a.Valid) : a.equals a = true := (equals_iff ha ha).mpr rfl

theorem equals_symm (ha : a.Valid) (hb : b.Valid) (h : a.equals b = true) : b.equals a = true :=
  (equals_iff hb ha).mpr ((equals_iff ha hb).mp h).symm

/-- What is equal to a value is equal to what the value is equal to. Nothing is asked of the first value. -/
theorem equals_trans (ha : a.Valid) (hb : b.Valid) (hfirst : c.equals a = true) (h : a.equals b = true) :
    c.equals b = true := by
  induction c using inductionOn generalizing a b with
  | null =>
    cases a with
    | null => exact h
    | _ => cases hfirst
  | bool p =>
    cases a with
    | bool q =>
      obtain rfl : p = q := eq_of_beq hfirst
      exact h
    | _ => cases hfirst
  | string s =>
    cases a with
    | string t =>
      obtain rfl : s = t := eq_of_beq hfirst
      exact h
    | _ => cases hfirst
  | number n =>
    obtain ⟨m, rfl, heq⟩ := equals_number.mp hfirst
    obtain ⟨k, rfl, heq'⟩ := equals_number.mp h
    refine equals_number.mpr ⟨k, rfl, ?_⟩
    rwa [← Number.equals_congr ha hb ((Number.equals_iff ha hb).mp heq')]
  | array cs ih =>
    obtain ⟨as, rfl, hall⟩ := equals_array.mp hfirst
    obtain ⟨bs, rfl, hall'⟩ := equals_array.mp h
    refine equals_array.mpr ⟨bs, rfl, List.forall₂_iff_get.mpr ⟨hall.length_eq.trans hall'.length_eq, ?_⟩⟩
    intro index hlt hlt'
    have hmid : index < as.length := hall.length_eq ▸ hlt
    refine ih _ (List.get_mem ..) (valid_array.mp ha _ (List.get_mem ..)) (valid_array.mp hb _ (List.get_mem ..))
      (hall.get hlt hmid) (hall'.get hmid hlt')
  | object cs ih =>
    obtain ⟨as, rfl, hlength, hall⟩ := equals_object.mp hfirst
    obtain ⟨bs, rfl, hlength', hall'⟩ := equals_object.mp h
    refine equals_object.mpr ⟨bs, rfl, hlength.trans hlength', fun name z hz => ?_⟩
    obtain ⟨x, hx, heq⟩ := hall name z hz
    obtain ⟨y, hy, heq'⟩ := hall' name x (Members.mem_of_find? hx)
    have hvalid := (valid_object.mp ha).2 name x (Members.mem_of_find? hx)
    have hvalid' := (valid_object.mp hb).2 name y (Members.mem_of_find? hy)
    exact ⟨y, hy, ih name z hz hvalid hvalid' heq heq'⟩

theorem equals_congr {x y : Json} (ha : a.Valid) (hb : b.Valid) (h : a.equals b = true) (hx : x.Valid) (hy : y.Valid)
    (hxy : x.equals y = true) : a.equals x = b.equals y := by
  rw [Bool.eq_iff_iff, equals_iff ha hx, equals_iff hb hy, (equals_iff ha hb).mp h, (equals_iff hx hy).mp hxy]

theorem equals_right_congr (ha : a.Valid) (hb : b.Valid) (h : a.equals b = true) (c : Json) :
    c.equals a = c.equals b :=
  Bool.eq_iff_iff.mpr
    ⟨fun heq => equals_trans ha hb heq h, fun heq => equals_trans hb ha heq (equals_symm ha hb h)⟩

/-- On the values that documents can hold, equality is equality of canonical forms, so it is reflexive, symmetric and
transitive there, however deep they are nested. -/
theorem equals_iff_canonical_eq :
    (∀ a b : Json, a.Valid → b.Valid → (a.equals b = true ↔ a.canonical = b.canonical)) ∧
      Equivalence fun a b : { value : Json // value.Valid } => a.val.equals b.val = true where
  left _ _ ha hb := equals_iff ha hb
  right :=
    { refl := fun a => equals_refl a.2
      symm := fun {a b} h => equals_symm a.2 b.2 h
      trans := fun {_ b c} h h' => equals_trans b.2 c.2 h h' }

theorem equals_iff_canonical_eq_totals :
    (object [("total", .number (.int 3)), ("sizes", .array [.number (.int 1), .number (.int 2)])]).canonical =
      (object [("sizes", .array [.number (.float (.ofInt 1)), .number (.int 2)]),
        ("total", .number (.float (.ofInt 3)))]).canonical := by
  have hone : (Binary64.ofInt 1).isFinite = true := by decide +kernel
  have hthree : (Binary64.ofInt 3).isFinite = true := by decide +kernel
  refine (equals_iff_canonical_eq.1 _ _ ?_ ?_).mp (by decide +kernel)
  · simp [Valid, ValidMembers, ValidItems, Members.names, Number.Valid]
  · simp [Valid, ValidMembers, ValidItems, Members.names, Number.Valid, hone, hthree]

end Json

end JsonSchema
