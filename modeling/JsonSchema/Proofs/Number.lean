import JsonSchema.Number
import Mathlib.Algebra.Order.Field.Rat
import Mathlib.Algebra.Order.Ring.Int
import Mathlib.Data.Int.Cast.Lemmas

/-!
The exact values of numbers. Both an integer and a finite binary64 number are an integer count of units, so a rational
number, and equality, the bounds and the multiples of fractions depend on that count alone.
-/
namespace JsonSchema

theorem divNearest_le {n d bound : Nat} (h : n < bound * d) : divNearest n d ≤ bound := by
  have hless : n / d < bound := Nat.div_lt_of_lt_mul (by rwa [Nat.mul_comm] at h)
  unfold divNearest
  split
  · omega
  · split <;> omega

theorem divNearest_of_dvd {n d : Nat} (hd : 0 < d) (h : d ∣ n) : divNearest n d = n / d := by
  have hzero : n % d = 0 := Nat.mod_eq_zero_of_dvd h
  simp [divNearest, hzero, hd]

theorem lt_two_pow_shift (n : Nat) : n < 2 ^ 53 * 2 ^ (n.log2 - 52) := by
  have hlog : n < 2 ^ (n.log2 + 1) := Nat.lt_log2_self
  rw [← Nat.pow_add]
  exact lt_of_lt_of_le hlog (Nat.pow_le_pow_right (by decide) (by omega))

namespace Binary64

/-- The exponent is kept apart, since the power itself is a long number. -/
theorem exists_unitsPerOne_eq : ∃ exponent, exponent = 1074 ∧ unitsPerOne = 2 ^ exponent :=
  ⟨unitsPerOne.log2, by decide +kernel, by decide +kernel⟩

theorem unitsPerOne_pos : 0 < unitsPerOne := by
  obtain ⟨exponent, _, hone⟩ := exists_unitsPerOne_eq
  rw [hone]
  exact Nat.pow_pos (by decide)

theorem nearest_of_representable (negative : Bool) {n : Nat} (h : Representable n) :
    nearest negative n 1 = finite negative n h := by
  obtain ⟨significand, exponent, hsignificand, hexponent, hn⟩ := id h
  have hsignificand' : significand < 2 ^ 53 := hsignificand
  have hn' : n = significand * 2 ^ exponent := hn
  have hshift : n.log2 - 52 ≤ exponent := by
    rcases Nat.eq_zero_or_pos n with hzero | hpos
    · simp [hzero]
    · have hlow : 2 ^ n.log2 ≤ n := Nat.log2_self_le (Nat.ne_of_gt hpos)
      have hhigh : n < 2 ^ (53 + exponent) := by
        rw [hn', Nat.pow_add]
        exact Nat.mul_lt_mul_of_pos_right hsignificand' (Nat.pow_pos (by decide))
      have := (Nat.pow_lt_pow_iff_right (by decide : 1 < 2)).mp (lt_of_le_of_lt hlow hhigh)
      omega
  have hpos : 0 < 2 ^ (n.log2 - 52) := Nat.pow_pos (by decide)
  have hdvd : 2 ^ (n.log2 - 52) ∣ n := hn' ▸ Dvd.dvd.mul_left (Nat.pow_dvd_pow 2 hshift) significand
  have hquotient : divNearest n (1 * Nat.pow 2 (n.log2 - 52)) = n / 2 ^ (n.log2 - 52) := by
    rw [Nat.one_mul]
    exact divNearest_of_dvd hpos hdvd
  have hless : n / 2 ^ (n.log2 - 52) < 2 ^ 53 := (Nat.div_lt_iff_lt_mul hpos).mpr (lt_two_pow_shift n)
  have hback : n / 2 ^ (n.log2 - 52) * Nat.pow 2 (n.log2 - 52) = n := Nat.div_mul_cancel hdvd
  simp only [nearest, Nat.div_one, hquotient]
  rw [dif_pos ⟨hless, by omega⟩]
  simp only [hback]

/-- What is below the point of overflow is rounded to a finite number: the count of significant bits is the nearest one,
shifted back. -/
theorem nearest_finite (negative : Bool) {n : Nat} (h : n.log2 ≤ 2096) :
    ∃ hunits, nearest negative n 1 =
      finite negative (divNearest n (2 ^ (n.log2 - 52)) * 2 ^ (n.log2 - 52)) hunits := by
  have hsignificand := divNearest_le (lt_two_pow_shift n)
  have hshift : divNearest n (1 * Nat.pow 2 (n.log2 - 52)) = divNearest n (2 ^ (n.log2 - 52)) := by
    rw [Nat.one_mul, Nat.pow_eq]
  simp only [nearest, Nat.div_one, hshift]
  split
  · rename_i hsmall
    exact ⟨⟨_, _, hsmall.1, hsmall.2, rfl⟩, rfl⟩
  · rename_i hlarge
    have hfull : divNearest n (2 ^ (n.log2 - 52)) = Nat.pow 2 53 :=
      le_antisymm hsignificand (by by_contra hless; exact hlarge ⟨Nat.not_le.mp hless, by omega⟩)
    have hunits : Nat.pow 2 52 * Nat.pow 2 (n.log2 - 52 + 1) =
        divNearest n (2 ^ (n.log2 - 52)) * 2 ^ (n.log2 - 52) := by
      rw [hfull]
      simp only [Nat.pow_eq, ← Nat.pow_add]
      congr 1
      omega
    have hrepresentable : Representable (divNearest n (2 ^ (n.log2 - 52)) * 2 ^ (n.log2 - 52)) :=
      ⟨Nat.pow 2 52, n.log2 - 52 + 1, by decide, by omega, hunits.symm⟩
    rw [dif_pos ⟨hfull, by omega⟩]
    exact ⟨hrepresentable, by simp only [hunits]⟩

theorem log2_mul_two_pow {n : Nat} (h : n ≠ 0) (exponent : Nat) : (n * 2 ^ exponent).log2 = n.log2 + exponent := by
  refine (Nat.log2_eq_iff (Nat.mul_ne_zero h (Nat.ne_of_gt (Nat.pow_pos (by decide))))).mpr ⟨?_, ?_⟩
  · rw [Nat.pow_add]
    exact Nat.mul_le_mul_right _ (Nat.log2_self_le h)
  · rw [show n.log2 + exponent + 1 = n.log2 + 1 + exponent by omega, Nat.pow_add]
    exact Nat.mul_lt_mul_of_pos_right Nat.lt_log2_self (Nat.pow_pos (by decide))

theorem ofInt_eq_finite {i : Int} {n : Nat} (h : i.natAbs < 2 ^ 64) (hn : i.natAbs * unitsPerOne = n) :
    ∃ hunits, ofInt i = finite (decide (i < 0)) (divNearest n (2 ^ (n.log2 - 52)) * 2 ^ (n.log2 - 52)) hunits := by
  obtain ⟨exponent, hexponent, hone⟩ := exists_unitsPerOne_eq
  have hlog : n.log2 ≤ 2096 := by
    rw [← hn, hone]
    by_cases hzero : i.natAbs = 0
    · simp [hzero]
    · have hless : i.natAbs.log2 < 64 := (Nat.log2_lt hzero).mpr h
      rw [log2_mul_two_pow hzero]
      omega
  rw [ofInt, hn]
  exact nearest_finite _ hlog

theorem ofInt_finite {i : Int} (h : i.natAbs < 2 ^ 64) :
    ∃ units hunits, ofInt i = finite (decide (i < 0)) units hunits ∧ unitsPerOne ∣ units ∧
      units ≤ 2 ^ 64 * unitsPerOne := by
  obtain ⟨exponent, hexponent, hone⟩ := exists_unitsPerOne_eq
  by_cases hsmall : i.natAbs < 2 ^ 53
  · have hrepresentable : Representable (i.natAbs * unitsPerOne) := ⟨i.natAbs, exponent, hsmall, by omega, hone ▸ rfl⟩
    refine ⟨_, hrepresentable, nearest_of_representable _ hrepresentable, Nat.dvd_mul_left _ _, ?_⟩
    exact Nat.mul_le_mul_right _ (le_of_lt h)
  · have hlow : 53 ≤ i.natAbs.log2 := (Nat.le_log2 (by omega)).mpr (Nat.not_lt.mp hsmall)
    have hhigh : i.natAbs.log2 < 64 := (Nat.log2_lt (by omega)).mpr h
    obtain ⟨n, hn⟩ : ∃ n, i.natAbs * unitsPerOne = n := ⟨_, rfl⟩
    have hlog : n.log2 = i.natAbs.log2 + exponent := by
      rw [← hn, hone, log2_mul_two_pow (by omega)]
    obtain ⟨hunits, heq⟩ := ofInt_eq_finite h hn
    refine ⟨_, hunits, heq, ?_, ?_⟩
    · rw [hone]
      exact Dvd.dvd.mul_left (Nat.pow_dvd_pow 2 (by omega)) _
    · calc
        divNearest n (2 ^ (n.log2 - 52)) * 2 ^ (n.log2 - 52) ≤ 2 ^ 53 * 2 ^ (11 + exponent) :=
          Nat.mul_le_mul (divNearest_le (lt_two_pow_shift n)) (Nat.pow_le_pow_right (by decide) (by omega))
        _ = 2 ^ 64 * unitsPerOne := by
          rw [hone, Nat.pow_add, ← Nat.mul_assoc, ← Nat.pow_add]

end Binary64

namespace Binary64

@[simp] theorem natAbs_signedUnits (negative : Bool) (units : Nat) : (signedUnits negative units).natAbs = units := by
  cases negative <;> simp [signedUnits]

theorem signedUnits_mul (negative : Bool) (units factor : Nat) :
    signedUnits negative (units * factor) = signedUnits negative units * factor := by
  cases negative <;> simp [signedUnits]

theorem signedUnits_decide (i : Int) : signedUnits (decide (i < 0)) i.natAbs = i := by
  unfold signedUnits
  split
  · simp only [decide_eq_true_eq] at *
    omega
  · simp only [decide_eq_true_eq] at *
    omega

theorem signedUnits_zero (negative : Bool) : signedUnits negative 0 = 0 := by
  cases negative <;> rfl

theorem eq_or_eq_zero_of_signedUnits_eq {p q : Bool} {units other : Nat}
    (h : signedUnits p units = signedUnits q other) :
    units = other ∧ (p = q ∨ units = 0) := by
  obtain rfl : units = other := by simpa using congrArg Int.natAbs h
  refine ⟨rfl, ?_⟩
  cases p <;> cases q <;> simp [signedUnits] at h ⊢ <;> omega

/-- The value of a finite number, counted in units. -/
def value : Binary64 → Int
  | finite negative units _ => signedUnits negative units
  | _ => 0

theorem compare?_of_isFinite {x y : Binary64} (hx : x.isFinite) (hy : y.isFinite) :
    x.compare? y = some (compare x.value y.value) := by
  cases x with
  | finite p units h =>
    cases y with
    | finite q other h' => rfl
    | nan => cases hy
    | infinity => cases hy
  | nan => cases hx
  | infinity => cases hx

theorem compare?_eq_some_eq_iff {x y : Binary64} (hx : x.isFinite) (hy : y.isFinite) :
    x.compare? y = some .eq ↔ x.value = y.value := by
  rw [compare?_of_isFinite hx hy, Option.some.injEq, Int.compare_eq_eq]

theorem atMost_iff {x y : Binary64} (hx : x.isFinite) (hy : y.isFinite) : x.atMost y = true ↔ x.value ≤ y.value := by
  rw [atMost, compare?_of_isFinite hx hy]
  rcases lt_trichotomy x.value y.value with hlt | heq | hgt
  · simp [Int.compare_eq_lt.mpr hlt, hlt.le]
  · simp [Int.compare_eq_eq.mpr heq, heq.le]
  · simpa [Int.compare_eq_gt.mpr hgt] using hgt

theorem value_ofInt {i : Int} (h : i.natAbs < 2 ^ 64) :
    ∃ whole : Int, (ofInt i).value = whole * unitsPerOne ∧ whole.natAbs ≤ 2 ^ 64 := by
  obtain ⟨units, hunits, heq, hdvd, hle⟩ := ofInt_finite h
  have hback : units / unitsPerOne * unitsPerOne = units := Nat.div_mul_cancel hdvd
  refine ⟨signedUnits (decide (i < 0)) (units / unitsPerOne), ?_, ?_⟩
  · rw [heq, value, ← signedUnits_mul, hback]
  · rw [natAbs_signedUnits]
    exact Nat.le_of_mul_le_mul_right (hback.trans_le hle) unitsPerOne_pos

end Binary64

namespace Number

open Binary64

/-- What a document can hold: an integer of 64 bits, with a sign or without, or a finite binary64 number. -/
def Valid : Number → Prop
  | int i => -2 ^ 63 ≤ i ∧ i < 2 ^ 64
  | float x => x.isFinite

/-- The value of a number, counted in units. -/
def units : Number → Int
  | int i => i * unitsPerOne
  | float x => x.value

variable {a b : Number} {x bound : Binary64} {i : Int}

theorem unitsPerOne_ne_zero : (unitsPerOne : Int) ≠ 0 := by exact_mod_cast Nat.ne_of_gt unitsPerOne_pos

theorem natAbs_mul_unitsPerOne (i : Int) : (i * unitsPerOne).natAbs = i.natAbs * unitsPerOne := by
  rw [Int.natAbs_mul, Int.natAbs_natCast]

theorem natAbs_lt_of_valid (h : (int i).Valid) : i.natAbs < 2 ^ 64 := by
  simp only [Valid] at h
  omega

theorem natAbs_lt_exactLimit (h : (int i).Valid) : i.natAbs < exactLimit :=
  (natAbs_lt_of_valid h).trans (by decide)

theorem exactIntOf_eq_some_iff :
    exactIntOf x = some i ↔ ∃ negative units h, x = .finite negative units h ∧
      signedUnits negative units = i * unitsPerOne ∧ i.natAbs < exactLimit := by
  constructor
  · intro hexact
    unfold exactIntOf at hexact
    split at hexact
    · rename_i whole hwhole
      obtain ⟨hless, heq⟩ := Option.ite_none_right_eq_some.mp hexact
      obtain rfl := Option.some.inj heq
      cases x with
      | finite negative units h =>
        obtain ⟨hzero, heq⟩ := Option.ite_none_right_eq_some.mp hwhole
        obtain rfl := Option.some.inj heq
        refine ⟨negative, units, h, rfl, ?_, hless⟩
        rw [← signedUnits_mul, Nat.div_mul_cancel (Nat.dvd_of_mod_eq_zero hzero)]
      | nan => cases hwhole
      | infinity => cases hwhole
    · cases hexact
  · rintro ⟨negative, units, h, rfl, hunits, hless⟩
    have hcount : units = i.natAbs * unitsPerOne := by
      rw [← natAbs_mul_unitsPerOne, ← hunits, natAbs_signedUnits]
    have hwhole : signedUnits negative (units / unitsPerOne) = i := by
      refine Int.eq_of_mul_eq_mul_right unitsPerOne_ne_zero ?_
      rw [← signedUnits_mul, Nat.div_mul_cancel (hcount ▸ Nat.dvd_mul_left _ _), hunits]
    have hzero : units % unitsPerOne = 0 := hcount ▸ Nat.mul_mod_left _ _
    simp only [exactIntOf, toInt?, hzero, if_true, hwhole, hless]

theorem exactInt?_eq_some_iff (ha : a.Valid) :
    a.exactInt? = some i ↔ a.units = i * unitsPerOne ∧ i.natAbs < exactLimit := by
  cases a with
  | int j =>
    simp only [exactInt?, Option.some.injEq, units]
    constructor
    · rintro rfl
      exact ⟨rfl, natAbs_lt_exactLimit ha⟩
    · rintro ⟨hunits, _⟩
      exact Int.eq_of_mul_eq_mul_right unitsPerOne_ne_zero hunits
  | float x =>
    rw [exactInt?, exactIntOf_eq_some_iff]
    cases x with
    | finite negative count h =>
      constructor
      · rintro ⟨_, _, _, ⟨⟩, hvalue, hless⟩
        exact ⟨hvalue, hless⟩
      · rintro ⟨hvalue, hless⟩
        exact ⟨negative, count, h, rfl, hvalue, hless⟩
    | nan => cases ha
    | infinity => cases ha

theorem exactInt?_congr (ha : a.Valid) (hb : b.Valid) (h : a.units = b.units) : a.exactInt? = b.exactInt? := by
  refine Option.ext fun i => ?_
  rw [exactInt?_eq_some_iff ha, exactInt?_eq_some_iff hb, h]

theorem ofInt_eq {count : Nat} (h : Representable count) (hcount : i.natAbs * unitsPerOne = count) :
    ofInt i = .finite (decide (i < 0)) count h := by
  subst hcount
  exact nearest_of_representable _ h

theorem isFinite_toBinary64 (ha : a.Valid) : a.toBinary64.isFinite = true := by
  cases a with
  | int i =>
    obtain ⟨units, hunits, heq, _⟩ := ofInt_finite (natAbs_lt_of_valid ha)
    rw [toBinary64, heq]
    rfl
  | float x => exact ha

theorem toBinary64_congr (ha : a.Valid) (hb : b.Valid) (h : a.units = b.units) :
    ∃ p q units hunits, a.toBinary64 = .finite p units hunits ∧ b.toBinary64 = .finite q units hunits ∧
      (p = q ∨ units = 0) := by
  have hmixed {i : Int} {negative : Bool} {count : Nat} (hcount : Representable count)
      (hvalue : i * unitsPerOne = signedUnits negative count) :
      ofInt i = .finite (decide (i < 0)) count hcount ∧ (decide (i < 0) = negative ∨ count = 0) := by
    have habs : i.natAbs * unitsPerOne = count := by rw [← natAbs_mul_unitsPerOne, hvalue, natAbs_signedUnits]
    refine ⟨ofInt_eq hcount habs, ?_⟩
    have hsame : signedUnits (decide (i < 0)) count = signedUnits negative count := by
      rw [← hvalue, ← habs, signedUnits_mul, signedUnits_decide]
    exact (eq_or_eq_zero_of_signedUnits_eq hsame).2
  cases a with
  | int i =>
    cases b with
    | int j =>
      obtain rfl : i = j := Int.eq_of_mul_eq_mul_right unitsPerOne_ne_zero h
      obtain ⟨units, hunits, heq, _⟩ := ofInt_finite (natAbs_lt_of_valid ha)
      exact ⟨_, _, units, hunits, heq, heq, .inl rfl⟩
    | float y =>
      cases y with
      | finite q units hunits =>
        obtain ⟨heq, hsign⟩ := hmixed hunits h
        exact ⟨_, q, units, hunits, heq, rfl, hsign⟩
      | nan => cases hb
      | infinity => cases hb
  | float x =>
    cases x with
    | finite p units hunits =>
      cases b with
      | int j =>
        obtain ⟨heq, hsign⟩ := hmixed hunits h.symm
        exact ⟨p, _, units, hunits, rfl, heq, hsign.imp_left Eq.symm⟩
      | float y =>
        cases y with
        | finite q other hother =>
          obtain ⟨rfl, hsign⟩ := eq_or_eq_zero_of_signedUnits_eq h
          exact ⟨p, q, units, hunits, rfl, rfl, hsign⟩
        | nan => cases hb
        | infinity => cases hb
    | nan => cases ha
    | infinity => cases ha

theorem value_toBinary64_congr (ha : a.Valid) (hb : b.Valid) (h : a.units = b.units) :
    a.toBinary64.value = b.toBinary64.value := by
  obtain ⟨p, q, units, hunits, hfirst, hsecond, rfl | rfl⟩ := toBinary64_congr ha hb h
  · rw [hfirst, hsecond]
  · rw [hfirst, hsecond, value, value, signedUnits_zero, signedUnits_zero]

theorem compare?_congr (ha : a.Valid) (hb : b.Valid) (h : a.units = b.units) (x : Binary64) :
    a.toBinary64.compare? x = b.toBinary64.compare? x ∧ x.compare? a.toBinary64 = x.compare? b.toBinary64 := by
  have hvalue := value_toBinary64_congr ha hb h
  obtain ⟨p, q, units, hunits, hfirst, hsecond, _⟩ := toBinary64_congr ha hb h
  rw [hfirst, hsecond] at hvalue ⊢
  simp only [value] at hvalue
  cases x with
  | nan => exact ⟨rfl, rfl⟩
  | infinity => exact ⟨rfl, rfl⟩
  | finite => simp only [compare?, hvalue, and_self]

theorem equals_eq (a b : Number) :
    a.equals b =
      match a.exactInt?, b.exactInt? with
      | some i, some j => i == j
      | _, _ => a.toBinary64.compare? b.toBinary64 == some .eq := by
  cases a <;> cases b <;> rfl

theorem equals_congr (ha : a.Valid) (hb : b.Valid) (h : a.units = b.units) (c : Number) : c.equals a = c.equals b := by
  rw [equals_eq, equals_eq, exactInt?_congr ha hb h, (compare?_congr ha hb h _).2]

theorem value_ne_of_exactInt?_eq_none (hx : (float x).Valid) (hi : (int i).Valid)
    (hnone : (float x).exactInt? = none) : x.value ≠ (ofInt i).value := by
  intro heq
  obtain ⟨whole, hwhole, hle⟩ := value_ofInt (natAbs_lt_of_valid hi)
  have hexact : (float x).exactInt? = some whole :=
    (exactInt?_eq_some_iff hx).mpr ⟨heq.trans hwhole, hle.trans_lt (by decide)⟩
  rw [hnone] at hexact
  cases hexact

theorem value_toBinary64_eq_iff (ha : a.Valid) (hb : b.Valid) (h : a.exactInt? = none ∨ b.exactInt? = none) :
    a.toBinary64.value = b.toBinary64.value ↔ a.units = b.units := by
  refine ⟨fun heq => ?_, value_toBinary64_congr ha hb⟩
  cases a with
  | int i =>
    have hnone : b.exactInt? = none := h.resolve_left (by simp [exactInt?])
    cases b with
    | int j => cases hnone
    | float y => exact absurd heq.symm (value_ne_of_exactInt?_eq_none hb ha hnone)
  | float x =>
    cases b with
    | int j => exact absurd heq (value_ne_of_exactInt?_eq_none ha hb (h.resolve_right (by simp [exactInt?])))
    | float y => exact heq

/-- Equality is equality of values. -/
theorem equals_iff (ha : a.Valid) (hb : b.Valid) : a.equals b = true ↔ a.units = b.units := by
  have hrounded (h : a.exactInt? = none ∨ b.exactInt? = none) :
      (a.toBinary64.compare? b.toBinary64 == some .eq) = true ↔ a.units = b.units := by
    rw [beq_iff_eq, compare?_eq_some_eq_iff (isFinite_toBinary64 ha) (isFinite_toBinary64 hb)]
    exact value_toBinary64_eq_iff ha hb h
  rw [equals_eq]
  cases hfirst : a.exactInt? with
  | none => exact hrounded (.inl hfirst)
  | some i =>
    cases hsecond : b.exactInt? with
    | none => exact hrounded (.inr hsecond)
    | some j =>
      rw [((exactInt?_eq_some_iff ha).mp hfirst).1, ((exactInt?_eq_some_iff hb).mp hsecond).1, beq_iff_eq]
      exact ⟨fun heq => heq ▸ rfl, fun heq => Int.eq_of_mul_eq_mul_right unitsPerOne_ne_zero heq⟩

theorem toBinary64_eq_of_inexact (ha : a.Valid) (hb : b.Valid) (h : a.units = b.units) (hnone : a.exactInt? = none) :
    a.toBinary64 = b.toBinary64 := by
  obtain ⟨p, q, count, hcount, hfirst, hsecond, rfl | rfl⟩ := toBinary64_congr ha hb h
  · rw [hfirst, hsecond]
  · have hzero : a.exactInt? = some 0 := by
      cases a with
      | int i => cases hnone
      | float x =>
        refine (exactInt?_eq_some_iff ha).mpr ⟨?_, by decide⟩
        obtain rfl : x = _ := hfirst
        rw [units, value, signedUnits_zero, Int.zero_mul]
    rw [hnone] at hzero
    cases hzero

theorem compareBound?_of_exact (ha : a.Valid) (h : exactIntOf bound = some i) :
    a.compareBound? bound = some (compare a.units (i * unitsPerOne)) := by
  have hpos : (0 : Int) < unitsPerOne := by exact_mod_cast unitsPerOne_pos
  cases a with
  | int j =>
    simp only [compareBound?, h, units, Option.some.injEq]
    rcases lt_trichotomy j i with hlt | rfl | hgt
    · rw [Int.compare_eq_lt.mpr hlt, Int.compare_eq_lt.mpr (mul_lt_mul_of_pos_right hlt hpos)]
    · rw [Int.compare_eq_eq.mpr rfl, Int.compare_eq_eq.mpr rfl]
    · rw [Int.compare_eq_gt.mpr hgt, Int.compare_eq_gt.mpr (mul_lt_mul_of_pos_right hgt hpos)]
  | float x =>
    obtain ⟨negative, count, hcount, rfl, hvalue, _⟩ := exactIntOf_eq_some_iff.mp h
    cases x with
    | finite p units hunits => simp only [compareBound?, compare?, Number.units, value, hvalue]
    | nan => cases ha
    | infinity => cases ha

theorem compareBound?_of_inexact (h : exactIntOf bound = none) :
    a.compareBound? bound = a.toBinary64.compare? bound := by
  cases a with
  | int j => simp only [compareBound?, h, toBinary64]
  | float x => rfl

theorem meetsMinimum_of_compare {α : Type} [LinearOrder α] {value limit : α}
    (h : a.compareBound? bound = some (compare value limit)) (exclusive : Bool) :
    a.meetsMinimum bound exclusive = if exclusive then decide (limit < value) else decide (limit ≤ value) := by
  rw [meetsMinimum, h]
  rcases lt_trichotomy value limit with hlt | rfl | hgt
  · simp [compare_lt_iff_lt.mpr hlt, hlt, hlt.le]
  · simp
  · simp [compare_gt_iff_gt.mpr hgt, hgt, hgt.le]

theorem meetsMaximum_of_compare {α : Type} [LinearOrder α] {value limit : α}
    (h : a.compareBound? bound = some (compare value limit)) (exclusive : Bool) :
    a.meetsMaximum bound exclusive = if exclusive then decide (value < limit) else decide (value ≤ limit) := by
  rw [meetsMaximum, h]
  rcases lt_trichotomy value limit with hlt | rfl | hgt
  · simp [compare_lt_iff_lt.mpr hlt, hlt, hlt.le]
  · simp
  · simp [compare_gt_iff_gt.mpr hgt, hgt, hgt.le]

theorem compareBound?_congr (ha : a.Valid) (hb : b.Valid) (h : a.units = b.units) (bound : Binary64) :
    a.compareBound? bound = b.compareBound? bound := by
  cases hexact : exactIntOf bound with
  | some i => rw [compareBound?_of_exact ha hexact, compareBound?_of_exact hb hexact, h]
  | none => rw [compareBound?_of_inexact hexact, compareBound?_of_inexact hexact, (compare?_congr ha hb h bound).1]

theorem isMultipleOf_congr (ha : a.Valid) (hb : b.Valid) (h : a.units = b.units) {divisor : Binary64}
    (hfraction : divisor.isWhole = false) : a.isMultipleOf divisor = b.isMultipleOf divisor := by
  cases divisor with
  | finite negative count hcount =>
    have hnone : (Binary64.finite negative count hcount).toInt? = none := by
      simpa [Binary64.isWhole, toInt?] using hfraction
    cases negative with
    | true => rfl
    | false =>
      obtain ⟨p, q, units, hunits, hfirst, hsecond, _⟩ := toBinary64_congr ha hb h
      simp only [isMultipleOf, hnone, hfirst, hsecond]
  | nan => rfl
  | infinity => rfl

theorem isWhole_eq (ha : a.Valid) : a.isWhole = decide ((unitsPerOne : Int) ∣ a.units) := by
  cases a with
  | int i => exact (decide_eq_true (Int.dvd_mul_left i unitsPerOne)).symm
  | float x =>
    cases x with
    | finite negative count h =>
      have hdvd : (unitsPerOne : Int) ∣ signedUnits negative count ↔ unitsPerOne ∣ count := by
        rw [← Int.natCast_dvd_natCast, ← natAbs_signedUnits negative count, Int.dvd_natAbs, natAbs_signedUnits]
      rw [isWhole, units, value, Binary64.isWhole]
      simp only [hdvd, Nat.dvd_iff_mod_eq_zero]
      rfl
    | nan => cases ha
    | infinity => cases ha

end Number

/-- The exact value of a finite number. What is not finite has none and counts as zero. -/
def Binary64.toRat : Binary64 → ℚ
  | finite negative units _ => signedUnits negative units / unitsPerOne
  | _ => 0

theorem Binary64.unitsPerOne_rat_pos : (0 : ℚ) < unitsPerOne := Nat.cast_pos.mpr unitsPerOne_pos

theorem Binary64.toRat_eq (x : Binary64) : x.toRat = x.value / unitsPerOne := by
  have hzero : (0 : ℚ) = (0 : Int) / unitsPerOne := by rw [Int.cast_zero, zero_div]
  cases x with
  | finite => rfl
  | nan => exact hzero
  | infinity => exact hzero

namespace Number

open Binary64

def toRat : Number → ℚ
  | int i => i
  | float x => x.toRat

theorem toRat_eq (n : Number) : n.toRat = n.units / unitsPerOne := by
  cases n with
  | int i => rw [toRat, units, Int.cast_mul, Int.cast_natCast, mul_div_cancel_right₀ _ unitsPerOne_rat_pos.ne']
  | float x => exact x.toRat_eq

theorem toRat_inj {a b : Number} : a.toRat = b.toRat ↔ a.units = b.units := by
  rw [toRat_eq, toRat_eq, div_left_inj' unitsPerOne_rat_pos.ne', Int.cast_inj]

end Number

end JsonSchema
