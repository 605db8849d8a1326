import JsonSchema.Proofs.Canonical

/-!
Arrays without repetitions. Scalars are equal if and only if they have the same key, so going through keys finds the
same repetitions as comparing all pairs, wherever an array or object puts an end to it.
-/
namespace JsonSchema.Json

variable {a b : Json}

theorem scalar?_congr (ha : a.Valid) (hb : b.Valid) (h : a.equals b = true) : a.scalar? = b.scalar? := by
  cases a with
  | null => cases b <;> first | rfl | cases h
  | bool p =>
    cases b with
    | bool q => rw [show p = q from eq_of_beq h]
    | _ => cases h
  | string s =>
    cases b with
    | string t => rw [show s = t from eq_of_beq h]
    | _ => cases h
  | number n =>
    obtain ⟨m, rfl, heq⟩ := equals_number.mp h
    have hunits := (Number.equals_iff ha hb).mp heq
    have hexact := Number.exactInt?_congr ha hb hunits
    cases hn : n.exactInt? with
    | some i => simp only [scalar?, ← hexact, hn]
    | none => simp only [scalar?, ← hexact, hn, Number.toBinary64_eq_of_inexact ha hb hunits hn]
  | array as =>
    obtain ⟨bs, rfl, _⟩ := equals_array.mp h
    rfl
  | object as =>
    obtain ⟨bs, rfl, _⟩ := equals_object.mp h
    rfl

def Scalar.canonical : Scalar → Canonical
  | null => .null
  | bool b => .bool b
  | int i => .number i
  | float x => .number x.toRat
  | string s => .string s

theorem canonical_eq_of_scalar? {key : Scalar} (ha : a.Valid) (h : a.scalar? = some key) :
    a.canonical = key.canonical := by
  cases a with
  | null | bool | string =>
    cases h
    rfl
  | number n =>
    cases hexact : n.exactInt? with
    | some i =>
      obtain rfl : Scalar.int i = key := by simpa [scalar?, hexact] using h
      have hunits : n.units = (Number.int i).units := ((Number.exactInt?_eq_some_iff ha).mp hexact).1
      exact congrArg Canonical.number (Number.toRat_inj.mpr hunits)
    | none =>
      obtain rfl : Scalar.float n.toBinary64 = key := by simpa [scalar?, hexact] using h
      cases n with
      | int i => cases hexact
      | float x => rfl
  | array => cases h
  | object => cases h

theorem equals_of_scalar?_eq {key : Scalar} (ha : a.Valid) (hb : b.Valid) (hkey : a.scalar? = some key)
    (hkey' : b.scalar? = some key) : a.equals b = true := by
  rw [equals_iff ha hb, canonical_eq_of_scalar? ha hkey, canonical_eq_of_scalar? hb hkey']

abbrev EqualItems : List Json → List Json → Prop :=
  List.Forall₂ fun a b => (a.Valid ∧ b.Valid) ∧ a.equals b = true

theorem all_eq_of_forall₂ {α β : Type} {p : α → Bool} {q : β → Bool} {as : List α} {bs : List β}
    (h : List.Forall₂ (fun a b => p a = q b) as bs) : as.all p = bs.all q := by
  induction h with
  | nil => rfl
  | cons hab _ ih => rw [List.all_cons, List.all_cons, hab, ih]

theorem pairwiseDistinct_congr {as bs : List Json} (h : EqualItems as bs) :
    pairwiseDistinct as = pairwiseDistinct bs := by
  induction h with
  | nil => rfl
  | cons hab hrest ih =>
    obtain ⟨⟨ha, hb⟩, heq⟩ := hab
    rw [pairwiseDistinct, pairwiseDistinct, ih, all_eq_of_forall₂]
    exact hrest.imp fun x y ⟨⟨hx, hy⟩, hxy⟩ => congrArg Bool.not (equals_congr ha hb heq hx hy hxy)

theorem pairwiseDistinct_iff {items : List Json} :
    pairwiseDistinct items = true ↔ items.Pairwise fun a b => a.equals b = false := by
  induction items with
  | nil => simp [pairwiseDistinct]
  | cons item rest ih => simp [pairwiseDistinct, ih]

/-- What going through the first elements has found: their keys, no two of which are the same. -/
structure Scanned (behind : List Json) (seen : List Scalar) : Prop where
  keys : behind.map scalar? = seen.reverse.map some
  nodup : seen.Nodup

variable {items behind : List Json} {seen : List Scalar} {item : Json} {key : Scalar}

theorem scanned_nil : Scanned [] [] := ⟨rfl, .nil⟩

theorem Scanned.next (h : Scanned behind seen) (hkey : item.scalar? = some key) (hnew : key ∉ seen) :
    Scanned (behind ++ [item]) (key :: seen) where
  keys := by simp [h.keys, hkey]
  nodup := List.nodup_cons.mpr ⟨hnew, h.nodup⟩

theorem Scanned.pairwise (h : Scanned behind seen) (hvalid : ∀ item ∈ behind, item.Valid) :
    behind.Pairwise fun a b => a.equals b = false := by
  have hkeys : (behind.map scalar?).Nodup := by
    rw [h.keys]
    exact (List.nodup_reverse.mpr h.nodup).map (Option.some_injective _)
  refine List.Pairwise.imp_of_mem (fun {a b} ha hb hne => ?_) (List.pairwise_map.mp hkeys)
  rw [← Bool.not_eq_true]
  exact fun heq => hne (scalar?_congr (hvalid a ha) (hvalid b hb) heq)

theorem Scanned.exists_item (h : Scanned behind seen) (hmem : key ∈ seen) :
    ∃ item ∈ behind, item.scalar? = some key := by
  have hkey : some key ∈ behind.map scalar? := by
    rw [h.keys]
    exact List.mem_map_of_mem (List.mem_reverse.mpr hmem)
  exact List.mem_map.mp hkey

/-- Going on from any place finds what comparing all pairs does. -/
theorem distinctScalars_eq (hvalid : ∀ item ∈ behind ++ items, item.Valid) (h : Scanned behind seen) :
    distinctScalars (behind ++ items) seen items = pairwiseDistinct (behind ++ items) := by
  induction items generalizing behind seen with
  | nil =>
    rw [List.append_nil] at hvalid ⊢
    exact (pairwiseDistinct_iff.mpr (h.pairwise hvalid)).symm
  | cons item rest ih =>
    rw [distinctScalars]
    cases hkey : item.scalar? with
    | none => rfl
    | some key =>
      by_cases hmem : key ∈ seen
      · obtain ⟨first, hfirst, hsame⟩ := h.exists_item hmem
        have heq : first.equals item = true :=
          equals_of_scalar?_eq (hvalid first (by simp [hfirst])) (hvalid item (by simp)) hsame hkey
        simp only [hmem, if_true]
        refine (Bool.eq_false_iff.mpr fun hdistinct => ?_).symm
        obtain ⟨_, _, hcross⟩ := List.pairwise_append.mp (pairwiseDistinct_iff.mp hdistinct)
        rw [hcross first hfirst item (List.mem_cons_self ..)] at heq
        cases heq
      · simp only [hmem, if_false]
        rw [List.append_cons behind item rest] at hvalid ⊢
        exact ih hvalid (h.next hkey hmem)

theorem areDistinct_eq (hvalid : ∀ item ∈ items, item.Valid) : areDistinct items = pairwiseDistinct items :=
  @distinctScalars_eq items [] [] hvalid scanned_nil

theorem areDistinct_congr {as bs : List Json} (h : EqualItems as bs) : areDistinct as = areDistinct bs := by
  have has (a : Json) (ha : a ∈ as) : a.Valid := by
    obtain ⟨_, _, ⟨hvalid, _⟩, _⟩ := Check.exists_right_of_forall₂ h ha
    exact hvalid
  have hbs (b : Json) (hb : b ∈ bs) : b.Valid := by
    obtain ⟨_, _, ⟨_, hvalid⟩, _⟩ := Check.exists_of_forall₂_of_mem h hb
    exact hvalid
  rw [areDistinct_eq has, areDistinct_eq hbs, pairwiseDistinct_congr h]

/-- Elements are distinct if and only if none of them is equal to a later one, wherever arrays and objects are among
them, and however numbers are written. -/
theorem areDistinct_iff_no_equal_pair (hvalid : ∀ item ∈ items, item.Valid) :
    areDistinct items = true ↔
      ¬∃ i j, ∃ (hi : i < items.length) (hj : j < items.length), i < j ∧ items[i].equals items[j] = true := by
  rw [areDistinct_eq hvalid, pairwiseDistinct_iff, List.pairwise_iff_getElem]
  constructor
  · rintro hall ⟨i, j, hi, hj, hless, heq⟩
    rw [hall i j hi hj hless] at heq
    cases heq
  · intro hnone i j hi hj hless
    exact Bool.eq_false_iff.mpr fun heq => hnone ⟨i, j, hi, hj, hless, heq⟩

def mixedItems : List Json := [.number (.int 1), .string "1", .array [], .number (.float (.ofInt 1))]

theorem areDistinct_iff_no_equal_pair_mixed :
    (∀ item ∈ mixedItems, item.Valid) ∧
      ∃ i j, ∃ (hi : i < mixedItems.length) (hj : j < mixedItems.length),
        i < j ∧ mixedItems[i].equals mixedItems[j] = true := by
  have hone : (Binary64.ofInt 1).isFinite = true := by decide +kernel
  have hvalid : ∀ item ∈ mixedItems, item.Valid := by
    simp [mixedItems, Valid, ValidItems, Number.Valid, hone]
  have hrepeated : areDistinct mixedItems = false := by decide +kernel
  refine ⟨hvalid, ?_⟩
  by_contra hnone
  rw [(areDistinct_iff_no_equal_pair hvalid).mpr hnone] at hrepeated
  cases hrepeated

end JsonSchema.Json
