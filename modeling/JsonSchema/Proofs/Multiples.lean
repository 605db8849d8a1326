import JsonSchema.Proofs.Significand
import Mathlib.Algebra.Order.Group.Int
import Mathlib.Algebra.Order.Ring.Cast

/-!
Multiples. A remainder of two binary64 numbers is exact, so a number is taken for a multiple exactly if some multiple of
the divisor is within the tolerance of it. The tolerance makes up for the rounding of integers, so no multiple is ever
rejected. For numbers that are no integers as they are written it does not shrink when both numbers are whole, and other
numbers pass too from a sum of `2 ^ 50` on.
-/
namespace JsonSchema

namespace Binary64

variable {x y : Binary64} {n m units : Nat}

theorem unitsPerOne_int_pos : (0 : Int) < unitsPerOne := Int.natCast_pos.mpr unitsPerOne_pos

theorem two_pow_le_unitsPerOne : 2 ^ 102 ≤ unitsPerOne := by
  obtain ⟨exponent, hexponent, hone⟩ := exists_unitsPerOne_eq
  rw [hone]
  exact Nat.pow_le_pow_right (by decide) (by omega)

/-- A distance of so many units is no more than a number. -/
inductive Covers : Binary64 → Nat → Prop
  | infinity (units : Nat) : Covers (.infinity false) units
  | finite {most : Nat} (hmost : Representable most) {units : Nat} (hle : units ≤ most) :
    Covers (.finite false most hmost) units

theorem covers_finite_iff (hmost : Representable m) : (finite false m hmost).Covers units ↔ units ≤ m := by
  constructor
  · rintro (_ | ⟨_, hle⟩)
    exact hle
  · exact .finite hmost

theorem Covers.mono (h : x.Covers m) (hle : n ≤ m) : x.Covers n := by
  cases h with
  | infinity => exact .infinity n
  | finite hmost hless => exact .finite hmost (hle.trans hless)

theorem Covers.rounded (h : x.Covers n) : x.Covers (rounded n) := by
  cases h with
  | infinity => exact .infinity _
  | finite hmost hle => exact .finite hmost (rounded_le hmost.short hle)

theorem covers_zero_nearest (n d : Nat) : (nearest false n d).Covers 0 := by
  simp only [nearest]
  split
  · exact .finite _ (Nat.zero_le _)
  · split
    · exact .finite _ (Nat.zero_le _)
    · exact .infinity 0

theorem covers_nearest_iff (n units : Nat) :
    (nearest false n 1).Covers units ↔ pastAll ≤ rounded n ∨ units ≤ rounded n := by
  rw [nearest_eq]
  split
  · rename_i hless
    rw [covers_finite_iff]
    exact ⟨.inr, fun h => h.resolve_left (Nat.not_le.mpr hless)⟩
  · rename_i hmore
    exact ⟨fun _ => .inl (Nat.not_lt.mp hmore), fun _ => .infinity units⟩

theorem mul_finite (hn : Representable n) (hm : Representable m) :
    (finite false n hn).mul (finite false m hm) = nearest false (n * m) unitsPerOne := rfl

theorem mul_infinity (hne : n ≠ 0) (hn : Representable n) :
    (infinity false).mul (finite false n hn) = infinity false := by
  simp [mul, hne]

theorem covers_zero_mul (h : x.Covers 0) (hne : units ≠ 0) (hunits : Representable units) :
    (x.mul (.finite false units hunits)).Covers 0 := by
  cases h with
  | infinity =>
    rw [mul_infinity hne]
    exact .infinity 0
  | finite hmost =>
    rw [mul_finite]
    exact covers_zero_nearest _ _

theorem atMost_finite_iff (h : x.Covers 0) (hunits : Representable units) :
    (finite false units hunits).atMost x = true ↔ x.Covers units := by
  cases h with
  | infinity => simpa [atMost, compare?] using Covers.infinity units
  | finite hmost =>
    rw [atMost_iff rfl rfl, covers_finite_iff]
    exact Int.ofNat_le

theorem atMost_nearest_iff (h : x.Covers 0) (hn : rounded n < pastAll) :
    (nearest false n 1).atMost x = true ↔ x.Covers (rounded n) := by
  rw [nearest_eq, dif_pos hn, atMost_finite_iff h]

end Binary64

namespace Number

open Binary64

variable {n : Number} {x d : Binary64} {i : Int} {value divisor : Nat}

theorem ofNat_four : ∃ hunits, Binary64.ofNat 4 = .finite false (4 * unitsPerOne) hunits := by
  obtain ⟨exponent, hexponent, hone⟩ := exists_unitsPerOne_eq
  have hunits : Representable (4 * unitsPerOne) := ⟨4, exponent, by decide, by omega, hone ▸ rfl⟩
  exact ⟨hunits, nearest_of_representable false hunits⟩

theorem epsilon_eq : ∃ exponent hunits, unitsPerOne = 2 ^ 52 * 2 ^ exponent ∧
    nearest false unitsPerOne 0x10000000000000 = .finite false (2 ^ exponent) hunits := by
  obtain ⟨exponent, hexponent, hone⟩ := exists_unitsPerOne_eq
  have hunits : Representable (2 ^ (exponent - 52)) := ⟨1, exponent - 52, by decide, by omega, (Nat.one_mul _).symm⟩
  have hsplit : unitsPerOne = 2 ^ 52 * 2 ^ (exponent - 52) := by
    rw [hone, ← Nat.pow_add, Nat.add_sub_cancel' (by omega)]
  refine ⟨exponent - 52, hunits, hsplit, ?_⟩
  have hnearest := nearest_mul_right (Nat.two_pow_pos 52) false (2 ^ (exponent - 52)) 1
  rw [nearest_of_representable false hunits, Nat.mul_comm, ← hsplit] at hnearest
  exact hnearest

theorem two_pow_dvd_rounded {n exponent : Nat} (h : 2 ^ (52 + exponent) ≤ n) : 2 ^ exponent ∣ rounded n := by
  have hlog : 52 + exponent ≤ n.log2 := (Nat.le_log2 (by rintro rfl; simp at h)).mpr h
  exact Dvd.dvd.mul_left (Nat.pow_dvd_pow 2 (by omega)) _

theorem nearest_units (negative : Bool) (n : Nat) :
    nearest negative (n * unitsPerOne) unitsPerOne = nearest negative n 1 := by
  have hscaled := nearest_mul_right unitsPerOne_pos negative n 1
  rwa [Nat.one_mul] at hscaled

theorem covers_zero_tolerance (value divisor : Nat) : (multipleTolerance value divisor).Covers 0 := by
  obtain ⟨hfour, heq⟩ := ofNat_four
  obtain ⟨exponent, hunits, _, heq'⟩ := epsilon_eq
  rw [multipleTolerance, heq, heq']
  refine covers_zero_mul (covers_zero_mul (covers_zero_nearest _ _) ?_ hfour) ?_ hunits
  · exact Nat.mul_ne_zero (by decide) (Nat.ne_of_gt unitsPerOne_pos)
  · exact Nat.ne_of_gt (Nat.two_pow_pos exponent)

/-- Four times a number, times the machine epsilon, is one `2 ^ 50`th of it, as long as nothing leaves the range. -/
theorem mul_four_mul_epsilon_covers_iff {sum four epsilon : Nat} (hsum : Representable sum) (hdvd : 2 ^ 50 ∣ sum)
    (hfour : Representable four) (hfour_eq : four = 4 * unitsPerOne) (hepsilon : Representable epsilon)
    (hone : unitsPerOne = 2 ^ 52 * epsilon) (hpos : 0 < epsilon) (units : Nat) :
    (((finite false sum hsum).mul (.finite false four hfour)).mul (.finite false epsilon hepsilon)).Covers units ↔
      pastAll ≤ 4 * sum ∨ units * 2 ^ 50 ≤ sum := by
  have hfourfold : (finite false sum hsum).mul (.finite false four hfour) = nearest false (4 * sum) 1 := by
    rw [mul_finite, hfour_eq, ← Nat.mul_assoc, Nat.mul_comm sum 4, nearest_units]
  have hshort : Short (4 * sum) := Nat.mul_comm sum (2 ^ 2) ▸ hsum.short.mul_two_pow 2
  rw [hfourfold]
  by_cases hless : 4 * sum < pastAll
  · obtain ⟨quotient, rfl⟩ := hdvd
    have hquotient : quotient < pastAll := by omega
    have hback : 4 * (2 ^ 50 * quotient) * epsilon = quotient * unitsPerOne := by
      rw [hone, ← Nat.mul_assoc 4, ← Nat.mul_assoc quotient, Nat.mul_comm quotient]
      rfl
    have hsmall : Short quotient := Short.of_mul_two_pow (Nat.mul_comm (2 ^ 50) quotient ▸ hsum.short)
    rw [nearest_of_representable false (representable_iff.mpr ⟨hshort, hless⟩), mul_finite, hback, nearest_units,
      covers_nearest_iff, rounded_of_short hsmall]
    omega
  · rw [nearest_eq, dif_neg (by rwa [rounded_of_short hshort]), mul_infinity (Nat.ne_of_gt hpos)]
    exact ⟨fun _ => .inl (Nat.not_lt.mp hless), fun _ => .infinity units⟩

/-- The tolerance is one `2 ^ 50`th of the rounded sum of the operands, unless they are very small. It has no limit
where four times the sum lies past all numbers. -/
theorem multipleTolerance_covers_iff (h : 2 ^ 102 ≤ value + divisor) (units : Nat) :
    (multipleTolerance value divisor).Covers units ↔
      pastAll ≤ 4 * rounded (value + divisor) ∨ units * 2 ^ 50 ≤ rounded (value + divisor) := by
  obtain ⟨hfour, hfour_eq⟩ := ofNat_four
  obtain ⟨exponent, hepsilon, hone, hepsilon_eq⟩ := epsilon_eq
  have hpos : 0 < 2 ^ exponent := Nat.two_pow_pos exponent
  rw [multipleTolerance, hfour_eq, hepsilon_eq, nearest_eq]
  split
  · exact mul_four_mul_epsilon_covers_iff _ (two_pow_dvd_rounded h) hfour rfl hepsilon hone hpos units
  · rename_i hmore
    rw [mul_infinity (Nat.mul_ne_zero (by decide) (Nat.ne_of_gt unitsPerOne_pos)), mul_infinity (Nat.ne_of_gt hpos)]
    exact ⟨fun _ => .inl (by omega), fun _ => .infinity units⟩

/-- The remainder is near zero or near the divisor exactly if some multiple of the divisor is near the value. -/
theorem isNearMultiple_iff (hvalue : Representable value) (hdivisor : Representable divisor) (hpos : 0 < divisor) :
    isNearMultiple value divisor = true ↔
      ∃ k : Int, (multipleTolerance value divisor).Covers ((value : Int) - k * divisor).natAbs := by
  have hfinite {count : Nat} (hle : count ≤ divisor) : rounded count < pastAll :=
    (rounded_le hdivisor.short hle).trans_lt (representable_iff.mp hdivisor).2
  have hless : value % divisor < divisor := Nat.mod_lt value hpos
  have hshort : Short (value % divisor) := hvalue.short.mod hdivisor.short hpos
  have hzero := covers_zero_tolerance value divisor
  have hsplit : (value : Int) = value / divisor * divisor + value % divisor := by
    exact_mod_cast (Nat.div_add_mod' value divisor).symm
  rw [isNearMultiple, Bool.or_eq_true, atMost_nearest_iff hzero (hfinite hless.le),
    atMost_nearest_iff hzero (hfinite (Nat.sub_le ..)), rounded_of_short hshort]
  have hdown : ((value : Int) - (value / divisor : Int) * divisor).natAbs = value % divisor := by omega
  have hup : ((value : Int) - (value / divisor + 1 : Int) * divisor).natAbs = divisor - value % divisor := by
    rw [Int.add_mul, Int.one_mul]
    omega
  constructor
  · rintro (hnear | hnear)
    · exact ⟨_, hdown ▸ hnear⟩
    · -- The distance to the next multiple may be rounded, but not if it is the smaller one.
      rcases Nat.le_total (value % divisor) (divisor - value % divisor) with hle | hle
      · exact ⟨_, hdown ▸ hnear.mono (le_rounded hshort hle)⟩
      · rw [rounded_of_short (hvalue.short.sub_mod hdivisor.short hle)] at hnear
        exact ⟨_, hup ▸ hnear⟩
  · rintro ⟨k, hcovers⟩
    rcases lt_or_ge (value / divisor : Int) k with hmore | hfew
    · have hpast : (value / divisor + 1 : Int) * divisor ≤ k * divisor :=
        Int.mul_le_mul_of_nonneg_right hmore (by omega)
      refine .inr (hcovers.mono ?_).rounded
      rw [Int.add_mul, Int.one_mul] at hpast
      omega
    · have hbefore : k * divisor ≤ (value / divisor : Int) * divisor := Int.mul_le_mul_of_nonneg_right hfew (by omega)
      exact .inl (hcovers.mono (by omega))

theorem exists_finite_of_value_pos (hd : d.isFinite) (hpos : 0 < d.value) :
    ∃ units hunits, 0 < units ∧ d = .finite false units hunits := by
  cases d with
  | nan => cases hd
  | infinity => cases hd
  | finite negative units hunits =>
    cases negative with
    | true =>
      rw [Binary64.value, signedUnits, if_pos rfl] at hpos
      omega
    | false => exact ⟨units, hunits, Int.natCast_pos.mp hpos, rfl⟩

theorem natAbs_sub_signedUnits (negative : Bool) (m n : Nat) :
    (signedUnits negative m - signedUnits negative n).natAbs = Nat.dist n m := by
  unfold Nat.dist
  cases negative <;> simp only [signedUnits, if_true, Bool.false_eq_true, if_false] <;> omega

theorem exists_natAbs_sub_signedUnits {near : Nat → Prop} (negative : Bool) (value divisor : Nat) :
    (∃ k : Int, near (signedUnits negative value - k * divisor).natAbs) ↔
      ∃ k : Int, near ((value : Int) - k * divisor).natAbs := by
  cases negative with
  | false => rfl
  | true =>
    have hflip (k : Int) : (signedUnits true value - k * divisor).natAbs = ((value : Int) - -k * divisor).natAbs := by
      rw [← Int.natAbs_neg, signedUnits, if_pos rfl, Int.neg_mul]
      congr 1
      omega
    simp only [hflip]
    constructor
    · rintro ⟨k, hnear⟩
      exact ⟨-k, hnear⟩
    · rintro ⟨k, hnear⟩
      exact ⟨-k, by rwa [Int.neg_neg]⟩

theorem isMultipleOf_float_iff (hx : x.isFinite) (hd : d.isFinite) (hpos : 0 < d.value) :
    (float x).isMultipleOf d = true ↔
      ∃ k : Int, (multipleTolerance x.value.natAbs d.value.natAbs).Covers (x.value - k * d.value).natAbs := by
  obtain ⟨divisor, hdivisor, hpositive, rfl⟩ := exists_finite_of_value_pos hd hpos
  cases x with
  | nan => cases hx
  | infinity => cases hx
  | finite negative value hvalue =>
    have hjudged : (float (.finite negative value hvalue)).isMultipleOf (.finite false divisor hdivisor) =
        isNearMultiple value divisor := by
      simp only [isMultipleOf, toBinary64, if_neg (Nat.ne_of_gt hpositive)]
    have hunits : (Binary64.finite false divisor hdivisor).value = divisor := rfl
    rw [hjudged, isNearMultiple_iff hvalue hdivisor hpositive, hunits, Int.natAbs_natCast, Binary64.value,
      natAbs_signedUnits, exists_natAbs_sub_signedUnits]

theorem isMultipleOf_of_fraction {m : Number} (h : n.toBinary64 = m.toBinary64) (hfraction : d.isWhole = false) :
    n.isMultipleOf d = m.isMultipleOf d := by
  cases d with
  | nan => rfl
  | infinity => rfl
  | finite negative divisor hdivisor =>
    have hnone : (Binary64.finite negative divisor hdivisor).toInt? = none := by
      simpa [Binary64.isWhole, toInt?] using hfraction
    cases negative with
    | true => rfl
    | false => simp only [isMultipleOf, hnone, h]

theorem isMultipleOf_int_iff (hi : (int i).Valid) (hd : d.isFinite) {whole : Int} (hpos : 0 < whole)
    (hwhole : d.value = whole * unitsPerOne) : (int i).isMultipleOf d = true ↔ whole ∣ i := by
  obtain ⟨divisor, hdivisor, hpositive, rfl⟩ :=
    exists_finite_of_value_pos hd (hwhole ▸ Int.mul_pos hpos unitsPerOne_int_pos)
  have hunits : divisor = whole.natAbs * unitsPerOne := by
    rw [← natAbs_mul_unitsPerOne, ← hwhole]
    rfl
  have hinteger : (Binary64.finite false divisor hdivisor).toInt? = some whole := by
    rw [toInt?, if_pos (hunits ▸ Nat.mul_mod_left _ _), hunits, Nat.mul_div_cancel _ unitsPerOne_pos]
    exact congrArg some (Int.natAbs_of_nonneg hpos.le)
  simp only [isMultipleOf, if_neg (Nat.ne_of_gt hpositive), hinteger]
  split
  · -- The divisor is larger than all integers, so zero is its only multiple among them.
    rename_i hlarge
    have hless : i.natAbs < whole.natAbs := (natAbs_lt_exactLimit hi).trans_le hlarge
    rw [beq_iff_eq]
    constructor
    · rintro rfl
      exact Int.dvd_zero whole
    · exact fun hdvd => Int.eq_zero_of_dvd_of_natAbs_lt_natAbs hdvd hless
  · rw [beq_iff_eq, Int.dvd_iff_emod_eq_zero]

/-- A number is an integer times another one. -/
def IsExactMultiple (n : Number) (d : Binary64) : Prop := ∃ k : Int, n.toRat = k * d.toRat

theorem isExactMultiple_iff : n.IsExactMultiple d ↔ d.value ∣ n.units := by
  have hcount (k : Int) : n.toRat = k * d.toRat ↔ n.units = d.value * k := by
    rw [toRat_eq, d.toRat_eq, ← mul_div_assoc, div_left_inj' unitsPerOne_rat_pos.ne', ← Int.cast_mul, Int.cast_inj,
      Int.mul_comm]
  simp only [IsExactMultiple, hcount]
  rfl

theorem value_pos_iff : 0 < d.toRat ↔ 0 < d.value := by
  rw [d.toRat_eq, lt_div_iff₀ unitsPerOne_rat_pos, zero_mul]
  exact Int.cast_pos

/-- The tolerance covers what an integer is rounded by. -/
theorem tolerance_covers_rounding (hi : i.natAbs < 2 ^ 64) (divisor : Nat) :
    (multipleTolerance (ofInt i).value.natAbs divisor).Covers ((ofInt i).value - i * unitsPerOne).natAbs := by
  obtain ⟨count, hcount⟩ : ∃ count, i.natAbs * unitsPerOne = count := ⟨_, rfl⟩
  obtain ⟨hunits, heq⟩ := ofInt_eq_finite hi hcount
  have hrounded : (ofInt i).value = signedUnits (decide (i < 0)) (rounded count) := heq ▸ rfl
  have hexact : i * unitsPerOne = signedUnits (decide (i < 0)) count := by
    rw [← hcount, signedUnits_mul, signedUnits_decide]
  rw [hexact, hrounded, natAbs_signedUnits, natAbs_sub_signedUnits]
  by_cases hzero : i = 0
  · subst hzero
    rw [Int.natAbs_zero, Nat.zero_mul] at hcount
    rw [← hcount, rounded_of_short (short_of_lt (by decide)), Nat.dist_self]
    exact covers_zero_tolerance 0 divisor
  · have hlarge : 2 ^ 102 ≤ count := by
      rw [← hcount]
      exact two_pow_le_unitsPerOne.trans (Nat.le_mul_of_pos_left _ (Int.natAbs_pos.mpr hzero))
    have hless : 2 ^ 102 ≤ rounded count := le_rounded (short_two_pow 102) hlarge
    -- What the integer is missed by is one part in `2 ^ 53` of what it is rounded to, so of no more than the sum.
    rw [multipleTolerance_covers_iff (by omega)]
    have hdistance := mul_dist_rounded_le count
    have hsum : rounded count ≤ rounded (rounded count + divisor) :=
      le_rounded (short_rounded count) (Nat.le_add_right ..)
    omega

theorem exists_units_of_isWhole (hn : n.Valid) (h : n.isWhole = true) :
    ∃ whole : Int, n.units = whole * unitsPerOne := by
  rw [isWhole_eq hn, decide_eq_true_eq] at h
  exact exists_eq_mul_left_of_dvd h

theorem exists_value_of_isWhole (hd : d.isFinite) (h : d.isWhole = true) (hpos : 0 < d.toRat) :
    ∃ whole : Nat, 0 < whole ∧ d.value = whole * unitsPerOne := by
  obtain ⟨whole, heq : d.value = _⟩ := exists_units_of_isWhole (n := float d) hd h
  have hwhole : 0 < whole := by
    have hvalue := value_pos_iff.mp hpos
    rw [heq] at hvalue
    exact Int.pos_of_mul_pos_left hvalue unitsPerOne_int_pos
  obtain ⟨whole, rfl⟩ := Int.eq_ofNat_of_zero_le hwhole.le
  exact ⟨whole, Int.natCast_pos.mp hwhole, heq⟩

theorem isExactMultiple_iff_dvd {a b : Int} (ha : n.units = a * unitsPerOne) (hb : d.value = b * unitsPerOne) :
    n.IsExactMultiple d ↔ b ∣ a := by
  rw [isExactMultiple_iff, ha, hb, Int.mul_dvd_mul_iff_right unitsPerOne_int_pos.ne']

/-- No true multiple is rejected, not even if it is rounded first or if the tolerance is infinite. -/
theorem isMultipleOf_of_isExactMultiple (hn : n.Valid) (hd : d.isFinite) (hpos : 0 < d.toRat)
    (h : n.IsExactMultiple d) : n.isMultipleOf d = true := by
  have hvalue : 0 < d.value := value_pos_iff.mp hpos
  obtain ⟨k, hk⟩ := isExactMultiple_iff.mp h
  cases n with
  | float x =>
    rw [isMultipleOf_float_iff hn hd hvalue]
    have hnone : x.value - k * d.value = 0 := Int.sub_eq_zero.mpr (hk.trans (Int.mul_comm _ _))
    exact ⟨k, hnone ▸ covers_zero_tolerance _ _⟩
  | int i =>
    cases hwhole : d.isWhole with
    | true =>
      obtain ⟨whole, hwhole_pos, heq⟩ := exists_value_of_isWhole hd hwhole hpos
      rw [isMultipleOf_int_iff hn hd (Int.natCast_pos.mpr hwhole_pos) heq]
      exact (isExactMultiple_iff_dvd rfl heq).mp h
    | false =>
      have hfinite : (ofInt i).isFinite = true := isFinite_toBinary64 hn
      rw [isMultipleOf_of_fraction (n := int i) (m := float (ofInt i)) rfl hwhole,
        isMultipleOf_float_iff hfinite hd hvalue]
      refine ⟨k, ?_⟩
      rw [Int.mul_comm, ← hk]
      exact tolerance_covers_rounding (natAbs_lt_of_valid hn) _

theorem isMultipleOf_of_isExactMultiple_rounded :
    (int 9007199254740993).Valid ∧ (nearest false (3 * unitsPerOne) 2).isWhole = false ∧
      (int 9007199254740993).IsExactMultiple (nearest false (3 * unitsPerOne) 2) ∧
      ¬(float (ofInt 9007199254740993)).IsExactMultiple (nearest false (3 * unitsPerOne) 2) ∧
      (int 9007199254740993).isMultipleOf (nearest false (3 * unitsPerOne) 2) = true := by
  have hvalid : (int 9007199254740993).Valid := by simp [Valid]
  have hpos : 0 < (nearest false (3 * unitsPerOne) 2).toRat := value_pos_iff.mpr (by decide +kernel)
  have hmultiple : (int 9007199254740993).IsExactMultiple (nearest false (3 * unitsPerOne) 2) :=
    isExactMultiple_iff.mpr ⟨6004799503160662, by decide +kernel⟩
  refine ⟨hvalid, by decide +kernel, hmultiple, ?_,
    isMultipleOf_of_isExactMultiple hvalid (by decide +kernel) hpos hmultiple⟩
  rw [isExactMultiple_iff]
  decide +kernel

theorem multipleTolerance_covers_whole_iff {a b : Nat} (hb : 0 < b) (count : Nat) :
    (multipleTolerance (a * unitsPerOne) (b * unitsPerOne)).Covers (count * unitsPerOne) ↔
      pastAll ≤ 4 * (rounded (a + b) * unitsPerOne) ∨ count * 2 ^ 50 ≤ rounded (a + b) := by
  obtain ⟨exponent, _, hone⟩ := exists_unitsPerOne_eq
  have hlarge : 2 ^ 102 ≤ a * unitsPerOne + b * unitsPerOne := by
    rw [← Nat.add_mul]
    exact two_pow_le_unitsPerOne.trans (Nat.le_mul_of_pos_left _ (by omega))
  have hrounded : rounded (a * unitsPerOne + b * unitsPerOne) = rounded (a + b) * unitsPerOne := by
    rw [← Nat.add_mul, hone, rounded_mul_two_pow]
  rw [multipleTolerance_covers_iff hlarge, hrounded, Nat.mul_right_comm, Nat.mul_le_mul_right_iff unitsPerOne_pos]

theorem isMultipleOf_wholeFloat_iff {a : Int} {b : Nat} (hx : x.isFinite) (hd : d.isFinite)
    (ha : x.value = a * unitsPerOne) (hb : d.value = b * unitsPerOne) (hpos : 0 < b) :
    (float x).isMultipleOf d = true ↔ pastAll ≤ 4 * (rounded (a.natAbs + b) * unitsPerOne) ∨
      ∃ k : Int, (a - k * b).natAbs * 2 ^ 50 ≤ rounded (a.natAbs + b) := by
  have hvalue : 0 < d.value := hb ▸ Int.mul_pos (Int.natCast_pos.mpr hpos) unitsPerOne_int_pos
  have hdistance (k : Int) : (a * unitsPerOne - k * (b * unitsPerOne)).natAbs = (a - k * b).natAbs * unitsPerOne := by
    rw [← Int.mul_assoc, ← Int.sub_mul, Int.natAbs_mul, Int.natAbs_natCast]
  rw [isMultipleOf_float_iff hx hd hvalue, ha, hb]
  simp only [hdistance, Int.natAbs_mul, Int.natAbs_natCast, multipleTolerance_covers_whole_iff hpos, exists_or,
    exists_const]

theorem toRat_of_units {whole : Int} (h : n.units = whole * unitsPerOne) : n.toRat = whole := by
  rw [toRat_eq, h, Int.cast_mul, Int.cast_natCast, mul_div_cancel_right₀ _ unitsPerOne_rat_pos.ne']

/-- Integers are divided exactly by whole numbers. A whole number that is no integer as it is written passes for a
multiple with a remainder of up to one `2 ^ 50`th of the sum, and with any if the sum is near the end of the range. So
the answers for both agree as long as the sum is less than `2 ^ 50`. -/
theorem isMultipleOf_whole (hn : n.Valid) (hwhole : n.isWhole = true) (hd : d.isFinite) (hdivisor : d.isWhole = true)
    (hpos : 0 < d.toRat) :
    ∃ (a : Int) (b : Nat), n.toRat = a ∧ d.toRat = b ∧ (n.IsExactMultiple d ↔ (b : Int) ∣ a) ∧
      (∀ i, n = int i → (n.isMultipleOf d = true ↔ (b : Int) ∣ a)) ∧
      (∀ x, n = float x → (n.isMultipleOf d = true ↔
        pastAll ≤ 4 * (rounded (a.natAbs + b) * unitsPerOne) ∨
          ∃ k : Int, (a - k * b).natAbs * 2 ^ 50 ≤ rounded (a.natAbs + b))) ∧
      (a.natAbs + b < 2 ^ 50 → (n.isMultipleOf d = true ↔ (b : Int) ∣ a)) := by
  obtain ⟨a, ha⟩ := exists_units_of_isWhole hn hwhole
  obtain ⟨b, hb, hvalue⟩ := exists_value_of_isWhole hd hdivisor hpos
  have hinteger (i : Int) (heq : n = int i) : n.isMultipleOf d = true ↔ (b : Int) ∣ a := by
    subst heq
    have hsame : i = a := Int.eq_of_mul_eq_mul_right unitsPerOne_int_pos.ne' ha
    rw [isMultipleOf_int_iff hn hd (Int.natCast_pos.mpr hb) hvalue, hsame]
  have hfloat (x : Binary64) (heq : n = float x) : n.isMultipleOf d = true ↔
      pastAll ≤ 4 * (rounded (a.natAbs + b) * unitsPerOne) ∨
        ∃ k : Int, (a - k * b).natAbs * 2 ^ 50 ≤ rounded (a.natAbs + b) := by
    subst heq
    exact isMultipleOf_wholeFloat_iff hn hd ha hvalue hb
  refine ⟨a, b, toRat_of_units ha, toRat_of_units (n := float d) hvalue, isExactMultiple_iff_dvd ha hvalue, hinteger,
    hfloat, fun hsmall => ?_⟩
  cases n with
  | int i => exact hinteger i rfl
  | float x =>
    have hshort : Short (a.natAbs + b) := short_of_lt (hsmall.trans (by decide))
    have hrange : 4 * ((a.natAbs + b) * unitsPerOne) < pastAll := by
      obtain ⟨exponent, hexponent, hone⟩ := exists_unitsPerOne_eq
      have hrepresentable : Representable (4 * ((a.natAbs + b) * unitsPerOne)) := by
        refine ⟨a.natAbs + b, 2 + exponent, hsmall.trans (by decide), by omega, ?_⟩
        rw [hone, Nat.mul_left_comm, Nat.pow_eq, Nat.pow_add]
      exact (representable_iff.mp hrepresentable).2
    rw [hfloat x rfl, rounded_of_short hshort, or_iff_right (Nat.not_le.mpr hrange)]
    constructor
    · rintro ⟨k, hnear⟩
      exact ⟨k, by rw [Int.mul_comm]; omega⟩
    · rintro ⟨k, rfl⟩
      refine ⟨k, ?_⟩
      rw [Int.mul_comm, Int.sub_self, Int.natAbs_zero, Nat.zero_mul]
      exact Nat.zero_le _

theorem isMultipleOf_whole_belowLimit :
    (float (ofInt 1125899906842619)).isWhole = true ∧ (ofInt 3).isWhole = true ∧ 0 < (ofInt 3).toRat ∧
      (float (ofInt 1125899906842619)).isMultipleOf (ofInt 3) = false := by
  have hfinite : (ofInt 1125899906842619).isFinite = true := by decide +kernel
  have hwhole : (float (ofInt 1125899906842619)).isWhole = true := by decide +kernel
  have hunits : (float (ofInt 1125899906842619)).units = 1125899906842619 * unitsPerOne := by decide +kernel
  have hthree : (ofInt 3).value = 3 * unitsPerOne := by decide +kernel
  have hdivisor : (ofInt 3).isWhole = true := by decide +kernel
  have hpos : 0 < (ofInt 3).toRat := value_pos_iff.mpr (by decide +kernel)
  obtain ⟨a, b, ha, hb, -, -, -, hsmall⟩ :=
    isMultipleOf_whole (n := float (ofInt 1125899906842619)) hfinite hwhole (by decide +kernel) hdivisor hpos
  rw [toRat_of_units hunits, Int.cast_inj] at ha
  have hthree_rat : (ofInt 3).toRat = (3 : Int) := toRat_of_units (n := float (ofInt 3)) hthree
  rw [hthree_rat, ← Int.cast_natCast, Int.cast_inj] at hb
  refine ⟨hwhole, hdivisor, hpos, Bool.eq_false_iff.mpr fun haccepted => ?_⟩
  have hdvd := (hsmall (by omega)).mp haccepted
  rw [← ha, ← hb] at hdvd
  omega

/-- The same number is taken for a multiple of three as it is written in one way, and is none as it is written in
another way. -/
theorem whole_multiples_inexact :
    (float (ofInt 100000000000000000)).Valid ∧ (int 100000000000000000).Valid ∧
      (float (ofInt 100000000000000000)).isWhole = true ∧ (ofInt 3).isWhole = true ∧ 0 < (ofInt 3).toRat ∧
      (float (ofInt 100000000000000000)).toRat = (int 100000000000000000).toRat ∧
      ¬(float (ofInt 100000000000000000)).IsExactMultiple (ofInt 3) ∧
      (float (ofInt 100000000000000000)).isMultipleOf (ofInt 3) = true ∧
      (int 100000000000000000).isMultipleOf (ofInt 3) = false := by
  have hfinite : (ofInt 100000000000000000).isFinite = true := by decide +kernel
  have hunits : (float (ofInt 100000000000000000)).units = 100000000000000000 * unitsPerOne := by decide +kernel
  have hthree : (ofInt 3).value = 3 * unitsPerOne := by decide +kernel
  refine ⟨hfinite, by simp [Valid], by decide +kernel, by decide +kernel, value_pos_iff.mpr (by decide +kernel), ?_, ?_,
    by decide +kernel, by decide +kernel⟩
  · exact (toRat_of_units hunits).trans (toRat_of_units rfl).symm
  · rw [isExactMultiple_iff_dvd hunits hthree]
    decide

end Number

end JsonSchema
