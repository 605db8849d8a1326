import JsonSchema.Proofs.Rounding
import Mathlib.Algebra.Order.Ring.Cast
import Mathlib.Order.WithBotTop

/-!
Numbers and bounds. A bound has an exact value too, among the rationals and the two infinities. A number is compared
with a bound as their values compare, although an integer may be rounded for it: rounding carries no integer past a
bound, nor onto one that is no integer.
-/
namespace JsonSchema

namespace Binary64

/-- The exact value among the rationals and the two infinities. NaN has none and counts as zero. -/
def extended : Binary64 → WithBotTop ℚ
  | infinity true => ⊥
  | infinity false => ⊤
  | x => x.toRat

theorem extended_of_isFinite {x : Binary64} (h : x.isFinite) : x.extended = x.toRat := by
  cases x with
  | finite => rfl
  | nan => cases h
  | infinity => cases h

theorem compare_value_ofInt {i : Int} {x : Binary64} (h : i.natAbs < 2 ^ 64) (hx : x.isFinite)
    (hne : x.value ≠ (ofInt i).value) : compare (ofInt i).value x.value = compare (i * unitsPerOne : Int) x.value := by
  have hnearest := natAbs_sub_ofInt_le h hx
  rcases lt_trichotomy (i * unitsPerOne : Int) x.value with hlt | heq | hgt
  · rw [Int.compare_eq_lt.mpr hlt, Int.compare_eq_lt.mpr (by omega)]
  · omega
  · rw [Int.compare_eq_gt.mpr hgt, Int.compare_eq_gt.mpr (by omega)]

end Binary64

namespace Number

open Binary64

variable {n : Number} {bound : Binary64}

theorem compare_extended (n : Number) {x : Binary64} (hx : x.isFinite) :
    compare (n.toRat : WithBotTop ℚ) x.extended = compare n.units x.value := by
  have hlt (i j : Int) : ((i / unitsPerOne : ℚ) : WithBotTop ℚ) < (j / unitsPerOne : ℚ) ↔ i < j := by
    rw [WithBotTop.coe_lt_coe, div_lt_div_iff_of_pos_right unitsPerOne_rat_pos, Int.cast_lt]
  rw [extended_of_isFinite hx, toRat_eq, x.toRat_eq]
  rcases lt_trichotomy n.units x.value with hless | heq | hmore
  · rw [Int.compare_eq_lt.mpr hless, compare_lt_iff_lt.mpr ((hlt _ _).mpr hless)]
  · rw [heq, Int.compare_eq_eq.mpr rfl, compare_eq_iff_eq.mpr rfl]
  · rw [Int.compare_eq_gt.mpr hmore, compare_gt_iff_gt.mpr ((hlt _ _).mpr hmore)]

/-- For a bound that is no exact integer a number may be rounded without a loss. -/
theorem compare?_toBinary64 (hn : n.Valid) (hbound : bound.isFinite) (hnone : exactIntOf bound = none) :
    n.toBinary64.compare? bound = some (compare n.units bound.value) := by
  rw [compare?_of_isFinite (isFinite_toBinary64 hn) hbound]
  cases n with
  | int i =>
    have hne : bound.value ≠ (ofInt i).value := value_ne_of_exactInt?_eq_none hbound hn hnone
    rw [toBinary64, compare_value_ofInt (natAbs_lt_of_valid hn) hbound hne, units]
  | float x => rfl

theorem compareBound?_eq (hn : n.Valid) (hbound : bound ≠ .nan) :
    n.compareBound? bound = some (compare (n.toRat : WithBotTop ℚ) bound.extended) := by
  cases hexact : exactIntOf bound with
  | some i =>
    obtain ⟨negative, count, hcount, rfl, hvalue, _⟩ := exactIntOf_eq_some_iff.mp hexact
    rw [compareBound?_of_exact hn hexact, compare_extended n rfl, ← hvalue, value]
  | none =>
    rw [compareBound?_of_inexact hexact]
    cases bound with
    | nan => exact absurd rfl hbound
    | finite => rw [compare?_toBinary64 hn rfl hexact, compare_extended n rfl]
    | infinity negative =>
      obtain ⟨p, q, units, hunits, heq, _⟩ := toBinary64_congr hn hn rfl
      rw [heq]
      cases negative with
      | true => rw [extended, compare_gt_iff_gt.mpr (WithBot.bot_lt_coe _)]; rfl
      | false => rw [extended, compare_lt_iff_lt.mpr (WithBot.coe_lt_coe.mpr (WithTop.coe_lt_top _))]; rfl

/-- Bounds are compared exactly, however large the number and wherever the bound is, the infinities included. -/
theorem meets_iff_exact (hn : n.Valid) (hbound : bound ≠ .nan) :
    (n.meetsMinimum bound false = true ↔ bound.extended ≤ n.toRat) ∧
    (n.meetsMinimum bound true = true ↔ bound.extended < n.toRat) ∧
    (n.meetsMaximum bound false = true ↔ n.toRat ≤ bound.extended) ∧
    (n.meetsMaximum bound true = true ↔ n.toRat < bound.extended) := by
  have hcompare := compareBound?_eq hn hbound
  simp [meetsMinimum_of_compare hcompare, meetsMaximum_of_compare hcompare]

theorem meets_iff_exact_pastPrecision :
    (int 9007199254740993).Valid ∧ Binary64.ofInt 9007199254740992 ≠ .nan ∧
      (Binary64.ofInt 9007199254740992).extended < (int 9007199254740993).toRat := by
  have hvalid : (int 9007199254740993).Valid := by simp [Valid]
  have hbound : Binary64.ofInt 9007199254740992 ≠ .nan := by decide +kernel
  exact ⟨hvalid, hbound, (meets_iff_exact hvalid hbound).2.1.mp (by decide +kernel)⟩

end Number

end JsonSchema
