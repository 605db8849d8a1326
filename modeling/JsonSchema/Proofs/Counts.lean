import JsonSchema.Proofs.Aliases
import JsonSchema.Proofs.Significand

/-!
Counts. A keyword that counts takes the numbers whose exact value is a natural number of 64 bits, however they are
written, and nothing else. What is not written as such an integer is compared with the largest count as a binary64
number, and this rounds the limit up to `2 ^ 64`. So nothing past the largest count gets through, and whatever does is
converted without a loss.
-/
namespace JsonSchema

namespace Binary64

variable {x : Binary64} {n : Nat} {i : Int}

theorem value_ofNat_maxNat64 : (ofNat maxNat64).isFinite = true ∧ (ofNat maxNat64).value = 2 ^ 64 * unitsPerOne := by
  decide +kernel

theorem isWhole_iff (hx : x.isFinite) : x.isWhole = true ↔ (unitsPerOne : Int) ∣ x.value := by
  have hwhole : x.isWhole = decide ((unitsPerOne : Int) ∣ x.value) := Number.isWhole_eq (a := .float x) hx
  rw [hwhole, decide_eq_true_eq]

theorem natCast_mul_unitsPerOne_nonneg (n : Nat) : (0 : Int) ≤ n * unitsPerOne :=
  Int.mul_nonneg (Int.natCast_nonneg n) (Int.natCast_nonneg unitsPerOne)

theorem isCount_iff_value (hx : x.isFinite) :
    x.isCount = true ↔ ∃ n : Nat, n < 2 ^ 64 ∧ x.value = n * unitsPerOne := by
  obtain ⟨hfinite, hlimit⟩ := value_ofNat_maxNat64
  have hpos : (0 : Int) < unitsPerOne := by exact_mod_cast unitsPerOne_pos
  have hless : x.compare? (ofNat maxNat64) = some .lt ↔ x.value < 2 ^ 64 * unitsPerOne := by
    rw [compare?_of_isFinite hx hfinite, hlimit, Option.some.injEq, Int.compare_eq_lt]
  have hzero : zero.atMost x = true ↔ 0 ≤ x.value := atMost_iff rfl hx
  rw [isCount, Bool.and_eq_true, Bool.and_eq_true, beq_iff_eq, hzero, isWhole_iff hx, hless]
  constructor
  · rintro ⟨⟨hnonneg, hwhole⟩, hsmall⟩
    obtain ⟨whole, heq⟩ := exists_eq_mul_left_of_dvd hwhole
    rw [heq] at hnonneg hsmall
    have hwhole_nonneg : 0 ≤ whole := Int.nonneg_of_mul_nonneg_left hnonneg hpos
    have hwhole_small : whole < 2 ^ 64 := lt_of_mul_lt_mul_right hsmall hpos.le
    obtain ⟨n, rfl⟩ := Int.eq_ofNat_of_zero_le hwhole_nonneg
    exact ⟨n, by exact_mod_cast hwhole_small, heq⟩
  · rintro ⟨n, hn, heq⟩
    rw [heq]
    have hsmall : (n : Int) < 2 ^ 64 := by exact_mod_cast hn
    exact ⟨⟨natCast_mul_unitsPerOne_nonneg n, Int.dvd_mul_left _ _⟩, Int.mul_lt_mul_of_pos_right hsmall hpos⟩

theorem isFinite_of_isCount (h : x.isCount = true) : x.isFinite = true := by
  cases x with
  | finite => rfl
  | nan => simp [isCount, isWhole] at h
  | infinity => simp [isCount, isWhole] at h

theorem toNat64_eq (hx : x.isFinite) (hn : n < 2 ^ 64) (h : x.value = n * unitsPerOne) : x.toNat64 = n := by
  cases x with
  | nan => cases hx
  | infinity => cases hx
  | finite negative units hunits =>
    have hcount : units = n * unitsPerOne := by
      rw [← natAbs_signedUnits negative units, show signedUnits negative units = _ from h, Int.natAbs_mul,
        Int.natAbs_natCast, Int.natAbs_natCast]
    have hquotient : units / unitsPerOne = n := by rw [hcount, Nat.mul_div_cancel _ unitsPerOne_pos]
    cases negative with
    | false =>
      have hle : n ≤ maxNat64 := Nat.le_of_lt_succ hn
      simp only [toNat64, Bool.false_eq_true, if_false, hquotient, Nat.min_eq_left hle]
    | true =>
      -- Below zero there is no natural number, so the units are none.
      have hzero : units = 0 := by
        have hvalue : -(units : Int) = n * unitsPerOne := h
        have hnonneg := natCast_mul_unitsPerOne_nonneg n
        omega
      rw [hzero, Nat.zero_div] at hquotient
      simp only [toNat64, if_true, hquotient]

theorem toNat64_lt (x : Binary64) : x.toNat64 < 2 ^ 64 := by
  have hmax : maxNat64 < 2 ^ 64 := by decide
  unfold toNat64
  split
  · exact Nat.two_pow_pos 64
  · split <;> omega
  · split <;> omega

theorem toRat_eq_natCast_iff : x.toRat = n ↔ x.value = n * unitsPerOne := by
  have hsame : (Number.float x).toRat = (Number.int n).toRat ↔ x.value = (Number.int n).units := Number.toRat_inj
  rwa [Number.toRat, Number.toRat, Int.cast_natCast, Number.units] at hsame

/-- The numbers that are let through are those that the conversion leaves as they are: it neither cuts off a fraction
nor meets an end of its range. -/
theorem isCount_iff_toNat64 : x.isCount = true ↔ x.isFinite = true ∧ x.toRat = x.toNat64 := by
  constructor
  · intro h
    have hx := isFinite_of_isCount h
    obtain ⟨n, hn, hvalue⟩ := (isCount_iff_value hx).mp h
    rw [toNat64_eq hx hn hvalue]
    exact ⟨hx, toRat_eq_natCast_iff.mpr hvalue⟩
  · rintro ⟨hx, hvalue⟩
    exact (isCount_iff_value hx).mpr ⟨x.toNat64, x.toNat64_lt, toRat_eq_natCast_iff.mp hvalue⟩

theorem value_ofInt_of_isFinite (h : (ofInt i).isFinite = true) :
    (ofInt i).value = signedUnits (decide (i < 0)) (rounded (i.natAbs * unitsPerOne)) := by
  rw [ofInt, nearest_eq] at h ⊢
  by_cases hrange : rounded (i.natAbs * unitsPerOne) < pastAll
  · rw [dif_pos hrange]
    rfl
  · rw [dif_neg hrange] at h
    cases h

/-- Integers outside of the range of counts are not rounded into it, not even to a zero with a sign. -/
theorem isCount_ofInt (h : i < 0 ∨ 2 ^ 64 ≤ i) : (ofInt i).isCount = false := by
  obtain ⟨exponent, _, hone⟩ := exists_unitsPerOne_eq
  apply Bool.eq_false_iff.mpr
  intro hcount
  have hfinite := isFinite_of_isCount hcount
  obtain ⟨n, hn, hvalue⟩ := (isCount_iff_value hfinite).mp hcount
  have hnonneg := natCast_mul_unitsPerOne_nonneg n
  rw [value_ofInt_of_isFinite hfinite] at hvalue
  rcases h with hnegative | hlarge
  · -- One has few bits, so an integer that is at least as far from zero stays at least so far from it.
    have hshort : Short unitsPerOne := hone ▸ short_two_pow exponent
    have hleast : unitsPerOne ≤ rounded (i.natAbs * unitsPerOne) :=
      le_rounded hshort (Nat.le_mul_of_pos_left _ (by omega))
    have hpos := unitsPerOne_pos
    rw [decide_eq_true hnegative, signedUnits, if_pos rfl] at hvalue
    omega
  · -- The same holds of the power that is the limit.
    have hshort : Short (2 ^ 64 * unitsPerOne) := hone ▸ (short_two_pow 64).mul_two_pow exponent
    have hmost : 2 ^ 64 * unitsPerOne ≤ rounded (i.natAbs * unitsPerOne) :=
      le_rounded hshort (Nat.mul_le_mul_right _ (by omega))
    have hcount : rounded (i.natAbs * unitsPerOne) = n * unitsPerOne := by
      rw [decide_eq_false (by omega), signedUnits, if_neg Bool.false_ne_true] at hvalue
      exact_mod_cast hvalue
    rw [hcount] at hmost
    have hle := Nat.le_of_mul_le_mul_right hmost unitsPerOne_pos
    omega

end Binary64

/-- A value is a number and has this exact value, however it is written. NaN and the infinities have none. -/
def Json.HasValue : Json → ℚ → Prop
  | number (.int i), q => i = q
  | number (.float x), q => x.isFinite = true ∧ x.toRat = q
  | _, _ => False

namespace Json

variable {value : Json} {i : Int} {x : Binary64} {n : Nat}

theorem natural?_eq_some_iff : natural? (number (.int i)) = some n ↔ n < 2 ^ 64 ∧ i = n := by
  have hmax : Binary64.maxNat64 = 2 ^ 64 - 1 := by decide
  rw [natural?, Option.ite_none_right_eq_some, Option.some.injEq, hmax]
  omega

theorem natural?_eq_none_iff : natural? (number (.int i)) = none ↔ i < 0 ∨ 2 ^ 64 ≤ i := by
  have hmax : Binary64.maxNat64 = 2 ^ 64 - 1 := by decide
  rw [natural?, ite_eq_right_iff, hmax]
  simp only [reduceCtorEq, imp_false]
  omega

theorem count?_int : count? (number (.int i)) = natural? (number (.int i)) := by
  cases hnatural : natural? (number (.int i)) with
  | some n => rw [count?, hnatural]; rfl
  | none =>
    have hcount : (Number.int i).toBinary64.isCount = false :=
      Binary64.isCount_ofInt (natural?_eq_none_iff.mp hnatural)
    rw [count?, hnatural, binary64?, Option.filter_some, hcount]
    rfl

theorem count?_float : count? (number (.float x)) = if x.isCount then some x.toNat64 else none := by
  have hcount : count? (number (.float x)) = ((some x).filter Binary64.isCount).map Binary64.toNat64 := rfl
  rw [hcount, Option.filter_some]
  split <;> rfl

theorem count?_eq_some_iff : value.count? = some n ↔ n < 2 ^ 64 ∧ value.HasValue n := by
  cases value with
  | number number =>
    cases number with
    | int i =>
      rw [count?_int, natural?_eq_some_iff, HasValue]
      exact and_congr_right fun _ => by exact_mod_cast Iff.rfl
    | float x =>
      rw [count?_float, Option.ite_none_right_eq_some, Option.some.injEq, Binary64.isCount_iff_toNat64, HasValue]
      constructor
      · rintro ⟨⟨hx, hvalue⟩, rfl⟩
        exact ⟨x.toNat64_lt, hx, hvalue⟩
      · rintro ⟨hn, hx, hvalue⟩
        have hsame : x.toNat64 = n := Binary64.toNat64_eq hx hn (Binary64.toRat_eq_natCast_iff.mp hvalue)
        exact ⟨⟨hx, hsame ▸ hvalue⟩, hsame⟩
  | _ => exact ⟨nofun, fun h => h.2.elim⟩

example : [.ofInt 1000, .neg .zero, .ofInt 18446744073709549568, .ofInt 18446744073709551615].map
    (fun x => count? (number (.float x))) = [some 1000, some 0, some 18446744073709549568, none] := by decide +kernel

end Json

/-- Keywords that count read their values by what they are worth exactly: as the natural number that a value is, if it
is one of 64 bits, and as a fault otherwise. A binary64 number is converted only if the conversion leaves it as it
is. -/
theorem Site.count_exact (site : Site) (keyword : Keyword) (value : Json) :
    (∀ n, site.expect keyword .count value.count? = .done n ↔ n < 2 ^ 64 ∧ value.HasValue n) ∧
      (site.expect keyword .count value.count? = .fail (.invalidKeyword keyword site.pointer .count) ↔
        ¬∃ n : Nat, n < 2 ^ 64 ∧ value.HasValue n) ∧
      ∀ x : Binary64, x.isCount = true ↔ x.isFinite = true ∧ x.toRat = x.toNat64 := by
  simp only [← Json.count?_eq_some_iff]
  refine ⟨fun n => ?_, ?_, fun x => Binary64.isCount_iff_toNat64⟩
  · cases value.count? <;> simp [expect]
  · cases value.count? <;> simp [expect]

def Keyword.counts : List Keyword := [.minLength, .maxLength, .minItems, .maxItems, .minProperties, .maxProperties]

/-- What a node has of a keyword that counts: nothing if its object does not name it, and otherwise the natural number
that the value has. -/
def SchemaNode.Counts (node : SchemaNode) (members : Members Json) (keyword : Keyword) : Prop :=
  (Members.find? members keyword.name = none ∧ node.facet keyword = .count none) ∨
    ∃ (value : Json) (n : Nat), Members.find? members keyword.name = some value ∧ n < 2 ^ 64 ∧ value.HasValue n ∧
      node.facet keyword = .count (some n)

section Objects

variable {fits : Visit → SchemaId → Prop} {site : Site} {mid next : UnfinishedNode} {keyword : Keyword}
  {value : Json} {location : Location} {members : Members Json} {inherited : Option String} {node : SchemaNode}

theorem UnfinishedNode.count_read (hkeyword : keyword ∈ Keyword.counts)
    (h : (mid.read site keyword value).Yields fits next) :
    ∃ n, value.count? = some n ∧ next.facet keyword = .count (some n) := by
  simp only [Keyword.counts, List.mem_cons, List.not_mem_nil, or_false] at hkeyword
  rcases hkeyword with rfl | rfl | rfl | rfl | rfl | rfl
  all_goals
    obtain ⟨n, hn, rfl⟩ := Inquiry.yields_bind_pure.mp h
    exact ⟨n, yields_expect.mp hn, rfl⟩

theorem counts_of_readObject (h : (readObject location members inherited).Yields fits node)
    (hnodup : (Members.names members).Nodup) (hkeyword : keyword ∈ Keyword.counts) : node.Counts members keyword := by
  obtain ⟨version, _, last, hlast, rfl⟩ := yields_readObject.mp h
  have hown : ∀ other ∈ Keyword.counts, other ∉ [Keyword.allOf, .multipleOf, .required] := by decide
  have hsettled : ∀ other ∈ Keyword.counts,
      other ∉ [Keyword.minimum, .maximum, .exclusiveMinimum, .exclusiveMaximum] := by decide
  have hstart : ({ node := { version := version } } : UnfinishedNode).facet keyword = .count none := by
    simp only [Keyword.counts, List.mem_cons, List.not_mem_nil, or_false] at hkeyword
    rcases hkeyword with rfl | rfl | rfl | rfl | rfl | rfl <;> rfl
  have hfinish : last.finish.facet keyword = last.facet keyword :=
    last.facet_finish_of_ne keyword (hsettled keyword hkeyword)
  rw [SchemaNode.Counts, hfinish]
  rcases UnfinishedNode.exists_read_of_find? hlast hnodup (hown keyword hkeyword) with
    ⟨hfind, hfacet⟩ | ⟨value, mid, next, hfind, _, hread, hfacet⟩
  · exact .inl ⟨hfind, hfacet.trans hstart⟩
  · obtain ⟨n, hcount, hnext⟩ := UnfinishedNode.count_read hkeyword hread
    obtain ⟨hn, hvalue⟩ := Json.count?_eq_some_iff.mp hcount
    exact .inr ⟨value, n, hfind, hn, hvalue, hfacet.trans hnext⟩

end Objects

/-- In a document that has been read, every node has the counts that its object names, by their exact values. -/
theorem Reader.link?_counts {reader : Reader} {document : Json} {root id : SchemaId} {final : LinkState}
    {location : Location} {members : Members Json} (hcanonical : reader.source.Canonical)
    (h : reader.link? document = some (.ok root, final)) (hvalue : final.valueAt? location = some (.object members))
    (hnodup : (Members.names members).Nodup) (hmember : Members.find? members Keyword.reference.name = none)
    (hid : final.nodeAt? location = some id) :
    ∃ node, final.graph.get? id = some node ∧ ∀ keyword ∈ Keyword.counts, node.Counts members keyword := by
  obtain ⟨inherited, node, hnode, hyields⟩ := exists_yields_of_nodeAt? hcanonical h hid hvalue hmember
  exact ⟨node, hnode, fun _ => counts_of_readObject hyields hnodup⟩

end JsonSchema
