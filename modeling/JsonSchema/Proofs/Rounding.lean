import JsonSchema.Proofs.Number
import Mathlib.Data.Nat.Dist

/-!
Rounding of integers. A count is rounded to the nearest one with few significant bits. So no binary64 number is nearer
to an integer of 64 bits than the one that it is converted to; an integer that is one is converted to itself, and any
other one to a different integer.
-/
namespace JsonSchema

/-- At most 53 significant bits, however large the number. -/
def Short (units : Nat) : Prop := ∃ significand exponent, significand < 2 ^ 53 ∧ units = significand * 2 ^ exponent

theorem Representable.short {units : Nat} (h : Representable units) : Short units := by
  obtain ⟨significand, exponent, hsignificand, _, hunits⟩ := h
  exact ⟨significand, exponent, hsignificand, hunits⟩

theorem divNearest_cases (n d : Nat) :
    (divNearest n d = n / d ∧ 2 * (n % d) ≤ d) ∨ (divNearest n d = n / d + 1 ∧ d ≤ 2 * (n % d)) := by
  unfold divNearest
  split
  · exact .inl ⟨rfl, by omega⟩
  · split
    · exact .inr ⟨rfl, by omega⟩
    · rcases Nat.mod_two_eq_zero_or_one (n / d) with heven | hodd
      · exact .inl ⟨by rw [heven, Nat.add_zero], by omega⟩
      · exact .inr ⟨by rw [hodd], by omega⟩

theorem dist_divNearest_le {n d : Nat} (hd : 0 < d) (quotient : Nat) :
    Nat.dist n (divNearest n d * d) ≤ Nat.dist n (quotient * d) := by
  have hsplit : n / d * d + n % d = n := Nat.div_add_mod' n d
  have hless : n % d < d := Nat.mod_lt n hd
  have hside : quotient * d ≤ n / d * d ∨ n / d * d + d ≤ quotient * d := by
    rcases Nat.lt_or_ge (n / d) quotient with hgt | hle
    · have hmore := Nat.mul_le_mul_right d hgt
      rw [Nat.succ_mul] at hmore
      exact .inr hmore
    · exact .inl (Nat.mul_le_mul_right d hle)
  unfold Nat.dist
  rcases divNearest_cases n d with ⟨hdown, hhalf⟩ | ⟨hup, hhalf⟩
  · rw [hdown]
    omega
  · rw [hup, Nat.succ_mul]
    omega

namespace Binary64

def rounded (n : Nat) : Nat := divNearest n (2 ^ (n.log2 - 52)) * 2 ^ (n.log2 - 52)

/-- No count with 53 significant bits is nearer than the one that is rounded to. -/
theorem dist_rounded_le {n other : Nat} (h : Short other) : Nat.dist n (rounded n) ≤ Nat.dist n other := by
  obtain ⟨significand, exponent, hsignificand, hother⟩ := h
  have hpos : 0 < 2 ^ (n.log2 - 52) := Nat.pow_pos (by decide)
  by_cases hle : n.log2 - 52 ≤ exponent
  · have hdvd : 2 ^ (n.log2 - 52) ∣ other := hother ▸ Dvd.dvd.mul_left (Nat.pow_dvd_pow 2 hle) significand
    obtain ⟨quotient, rfl⟩ := exists_eq_mul_left_of_dvd hdvd
    exact dist_divNearest_le hpos quotient
  · -- Numbers with a lower exponent lie below the least one with the exponent of the rounded number.
    have hlog : 2 ^ 52 * 2 ^ (n.log2 - 52) ≤ n := by
      rw [← Nat.pow_add, show 52 + (n.log2 - 52) = n.log2 by omega]
      exact Nat.log2_self_le (by rintro rfl; simp at hle)
    have hbelow : other < 2 ^ 52 * 2 ^ (n.log2 - 52) := by
      calc
        other = significand * 2 ^ exponent := hother
        _ < 2 ^ 53 * 2 ^ exponent := Nat.mul_lt_mul_of_pos_right hsignificand (Nat.pow_pos (by decide))
        _ = 2 ^ (53 + exponent) := (Nat.pow_add 2 53 exponent).symm
        _ ≤ 2 ^ (52 + (n.log2 - 52)) := Nat.pow_le_pow_right (by decide) (by omega)
        _ = 2 ^ 52 * 2 ^ (n.log2 - 52) := Nat.pow_add 2 52 _
    have hleast := dist_divNearest_le (n := n) hpos (2 ^ 52)
    refine hleast.trans ?_
    unfold Nat.dist
    omega

theorem natAbs_sub_signedUnits_le {p q : Bool} {n units other : Nat} (hother : Nat.dist n units ≤ Nat.dist n other) :
    (signedUnits p n - signedUnits p units).natAbs ≤ (signedUnits p n - signedUnits q other).natAbs := by
  unfold Nat.dist at hother
  cases p <;> cases q <;> simp only [signedUnits, if_true, Bool.false_eq_true, if_false] <;> omega

variable {i : Int} {x : Binary64}

/-- No finite number is nearer to an integer than the one that it is converted to. -/
theorem natAbs_sub_ofInt_le (h : i.natAbs < 2 ^ 64) (hx : x.isFinite) :
    (i * unitsPerOne - (ofInt i).value).natAbs ≤ (i * unitsPerOne - x.value).natAbs := by
  have hi : i * unitsPerOne = signedUnits (decide (i < 0)) (i.natAbs * unitsPerOne) := by
    rw [signedUnits_mul, signedUnits_decide]
  obtain ⟨hunits, heq⟩ := ofInt_eq_finite h rfl
  rw [heq, hi]
  cases x with
  | finite q other hother =>
    exact natAbs_sub_signedUnits_le (dist_rounded_le hother.short)
  | nan => cases hx
  | infinity => cases hx

theorem value_ofInt_eq_of_value (h : i.natAbs < 2 ^ 64) (hx : x.isFinite) (hvalue : x.value = i * unitsPerOne) :
    (ofInt i).value = i * unitsPerOne := by
  have hle := natAbs_sub_ofInt_le h hx
  rw [hvalue, Int.sub_self, Int.natAbs_zero] at hle
  omega

theorem value_ofInt_of_le (h : i.natAbs ≤ 2 ^ 53) : (ofInt i).value = i * unitsPerOne := by
  obtain ⟨exponent, hexponent, hone⟩ := exists_unitsPerOne_eq
  have hrepresentable : Representable (i.natAbs * unitsPerOne) := by
    rw [hone]
    rcases Nat.lt_or_eq_of_le h with hless | heq
    · exact ⟨i.natAbs, exponent, hless, by omega, rfl⟩
    · refine ⟨2 ^ 52, exponent + 1, by decide, by omega, ?_⟩
      rw [heq, Nat.pow_eq, ← Nat.pow_add, ← Nat.pow_add, show 53 + exponent = 52 + (exponent + 1) by omega]
  rw [Number.ofInt_eq hrepresentable rfl, value, signedUnits_mul, signedUnits_decide]

end Binary64

end JsonSchema
