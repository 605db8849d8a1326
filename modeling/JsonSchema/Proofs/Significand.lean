import JsonSchema.Proofs.Rounding

/-!
Counts as significant bits. A count is rounded to 53 of them, and the outcome is a binary64 number unless it lies past
all of these. A count that has no more bits stays as it is, so rounding carries no other count past it; and the
remainder of two such counts is one again.
-/
namespace JsonSchema

variable {n m units : Nat}

theorem short_two_pow (exponent : Nat) : Short (2 ^ exponent) := ⟨1, exponent, by decide, (Nat.one_mul _).symm⟩

theorem short_of_lt (h : n < 2 ^ 53) : Short n := ⟨n, 0, h, (Nat.mul_one n).symm⟩

theorem Short.mul_two_pow (h : Short n) (exponent : Nat) : Short (n * 2 ^ exponent) := by
  obtain ⟨significand, other, hsignificand, rfl⟩ := h
  exact ⟨significand, other + exponent, hsignificand, by rw [Nat.pow_add, Nat.mul_assoc]⟩

theorem Short.of_mul_two_pow {exponent : Nat} (h : Short (n * 2 ^ exponent)) : Short n := by
  obtain ⟨significand, other, hsignificand, heq⟩ := h
  have hpos : 0 < 2 ^ exponent := Nat.pow_pos (by decide)
  by_cases hle : exponent ≤ other
  · refine ⟨significand, other - exponent, hsignificand, Nat.eq_of_mul_eq_mul_right hpos ?_⟩
    rw [heq, Nat.mul_assoc, ← Nat.pow_add, Nat.sub_add_cancel hle]
  · refine short_of_lt (lt_of_le_of_lt ?_ hsignificand)
    refine Nat.le_of_mul_le_mul_right (heq.trans_le ?_) hpos
    exact Nat.mul_le_mul_left _ (Nat.pow_le_pow_right (by decide) (by omega))

/-- Two counts with few bits have a common grid, on which every count below both of them has few bits. -/
theorem Short.exists_grid (hn : Short n) (hm : Short m) :
    ∃ step, step ∣ n ∧ step ∣ m ∧ ∀ count, step ∣ count → count ≤ n → count ≤ m → Short count := by
  have hbelow {significand exponent count : Nat} (hsignificand : significand < 2 ^ 53)
      (hdvd : 2 ^ exponent ∣ count) (hle : count ≤ significand * 2 ^ exponent) : Short count := by
    obtain ⟨quotient, rfl⟩ := exists_eq_mul_left_of_dvd hdvd
    exact ⟨quotient, exponent, (Nat.le_of_mul_le_mul_right hle (Nat.pow_pos (by decide))).trans_lt hsignificand, rfl⟩
  obtain ⟨first, exponent, hfirst, rfl⟩ := hn
  obtain ⟨second, other, hsecond, rfl⟩ := hm
  rcases Nat.le_total exponent other with hle | hle
  · refine ⟨2 ^ exponent, Nat.dvd_mul_left _ _, Dvd.dvd.mul_left (Nat.pow_dvd_pow 2 hle) _, ?_⟩
    exact fun count hdvd hcount _ => hbelow hfirst hdvd hcount
  · refine ⟨2 ^ other, Dvd.dvd.mul_left (Nat.pow_dvd_pow 2 hle) _, Nat.dvd_mul_left _ _, ?_⟩
    exact fun count hdvd _ hcount => hbelow hsecond hdvd hcount

theorem Short.mod (hn : Short n) (hm : Short m) (hpos : 0 < m) : Short (n % m) := by
  obtain ⟨step, hfirst, hsecond, hshort⟩ := hn.exists_grid hm
  exact hshort _ ((Nat.dvd_mod_iff hsecond).mpr hfirst) (Nat.mod_le n m) (Nat.mod_lt n hpos).le

/-- What is missing to the next multiple is exact, unless it is more than the remainder. -/
theorem Short.sub_mod (hn : Short n) (hm : Short m) (hle : m - n % m ≤ n % m) : Short (m - n % m) := by
  obtain ⟨step, hfirst, hsecond, hshort⟩ := hn.exists_grid hm
  have hremainder : step ∣ n % m := (Nat.dvd_mod_iff hsecond).mpr hfirst
  exact hshort _ (Nat.dvd_sub hsecond hremainder) (hle.trans (Nat.mod_le n m)) (Nat.sub_le m _)

namespace Binary64

/-- The least count of units that lies past all finite numbers. -/
def pastAll : Nat := Nat.pow 2 2098

theorem exists_pastAll_eq : ∃ exponent, exponent = 2045 ∧ pastAll = 2 ^ 53 * 2 ^ exponent := by
  have hexponent : pastAll.log2 = 2098 := by decide +kernel
  have hpast : 2 ^ pastAll.log2 = pastAll := by decide +kernel
  refine ⟨pastAll.log2 - 53, by omega, ?_⟩
  rw [← Nat.pow_add, Nat.add_sub_cancel' (by omega), hpast]

theorem representable_iff : Representable units ↔ Short units ∧ units < pastAll := by
  obtain ⟨most, hmost, hpast⟩ := exists_pastAll_eq
  constructor
  · intro h
    refine ⟨h.short, ?_⟩
    obtain ⟨significand, exponent, hsignificand, hexponent, rfl⟩ := h
    rw [Nat.pow_eq] at hsignificand ⊢
    calc
      significand * 2 ^ exponent < 2 ^ 53 * 2 ^ exponent :=
        Nat.mul_lt_mul_of_pos_right hsignificand (Nat.pow_pos (by decide))
      _ ≤ 2 ^ 53 * 2 ^ most := Nat.mul_le_mul_left _ (Nat.pow_le_pow_right (by decide) (by omega))
      _ = pastAll := hpast.symm
  · rintro ⟨⟨significand, exponent, hsignificand, rfl⟩, hless⟩
    by_cases hle : exponent ≤ most
    · exact ⟨significand, exponent, hsignificand, by omega, rfl⟩
    · have hsplit : significand * 2 ^ exponent = significand * 2 ^ (exponent - most) * 2 ^ most := by
        rw [Nat.mul_assoc, ← Nat.pow_add, Nat.sub_add_cancel (by omega)]
      rw [hsplit, hpast] at hless
      exact ⟨_, most, Nat.lt_of_mul_lt_mul_right hless, by omega, hsplit⟩

theorem rounded_of_short (h : Short n) : rounded n = n := by
  have hdist := dist_rounded_le (n := n) h
  rw [Nat.dist_self, Nat.le_zero] at hdist
  exact (Nat.eq_of_dist_eq_zero hdist).symm

theorem short_rounded (n : Nat) : Short (rounded n) := by
  rcases Nat.lt_or_eq_of_le (divNearest_le (lt_two_pow_shift n)) with hless | heq
  · exact ⟨_, _, hless, rfl⟩
  · rw [rounded, heq]
    exact (short_two_pow 53).mul_two_pow _

theorem rounded_le (hm : Short m) (h : n ≤ m) : rounded n ≤ m := by
  have hdist := dist_rounded_le (n := n) hm
  unfold Nat.dist at hdist
  omega

theorem le_rounded (hm : Short m) (h : m ≤ n) : m ≤ rounded n := by
  have hdist := dist_rounded_le (n := n) hm
  unfold Nat.dist at hdist
  omega

/-- A count is missed by no more than half a unit of the last bit that is kept. -/
theorem mul_dist_rounded_le (n : Nat) : 2 ^ 53 * Nat.dist n (rounded n) ≤ rounded n := by
  by_cases hfew : n.log2 - 52 = 0
  · have hless : n < 2 ^ 53 * 2 ^ (n.log2 - 52) := lt_two_pow_shift n
    rw [hfew, Nat.pow_zero, Nat.mul_one] at hless
    rw [rounded_of_short (short_of_lt hless), Nat.dist_self]
    exact Nat.zero_le _
  · have hlow : 2 ^ 52 * 2 ^ (n.log2 - 52) ≤ rounded n := by
      rw [← Nat.pow_add, show 52 + (n.log2 - 52) = n.log2 by omega]
      exact le_rounded (short_two_pow _) (Nat.log2_self_le (by rintro rfl; simp at hfew))
    have hhalf : 2 * Nat.dist n (rounded n) ≤ 2 ^ (n.log2 - 52) := by
      have hsplit := Nat.div_add_mod' n (2 ^ (n.log2 - 52))
      have hless := Nat.mod_lt n (Nat.two_pow_pos (n.log2 - 52))
      unfold Nat.dist rounded
      rcases divNearest_cases n (2 ^ (n.log2 - 52)) with ⟨hdown, _⟩ | ⟨hup, _⟩
      · rw [hdown]
        omega
      · rw [hup, Nat.add_mul, Nat.one_mul]
        omega
    omega

theorem divNearest_mul_right {k : Nat} (hk : 0 < k) (n d : Nat) : divNearest (n * k) (d * k) = divNearest n d := by
  have hdown : 2 * (n % d * k) < d * k ↔ 2 * (n % d) < d := by rw [← Nat.mul_assoc, Nat.mul_lt_mul_right hk]
  have hup : d * k < 2 * (n % d * k) ↔ d < 2 * (n % d) := by rw [← Nat.mul_assoc, Nat.mul_lt_mul_right hk]
  simp only [divNearest, Nat.mul_div_mul_right _ _ hk, Nat.mul_mod_mul_right, hdown, hup]

theorem rounded_mul_two_pow (n exponent : Nat) : rounded (n * 2 ^ exponent) = rounded n * 2 ^ exponent := by
  by_cases hfew : n.log2 < 52
  · have hshort : Short n := short_of_lt (Nat.lt_log2_self.trans_le (Nat.pow_le_pow_right (by decide) (by omega)))
    rw [rounded_of_short hshort, rounded_of_short (hshort.mul_two_pow exponent)]
  · have hne : n ≠ 0 := by
      rintro rfl
      simp at hfew
    have hshift : (n * 2 ^ exponent).log2 - 52 = n.log2 - 52 + exponent := by
      rw [log2_mul_two_pow hne]
      omega
    rw [rounded, hshift, Nat.pow_add, divNearest_mul_right (Nat.two_pow_pos exponent), ← Nat.mul_assoc, rounded]

/-- A count is converted to what it is rounded to, or to infinity if that lies past all numbers. -/
theorem nearest_eq (negative : Bool) (n : Nat) :
    nearest negative n 1 =
      if h : rounded n < pastAll then .finite negative (rounded n) (representable_iff.mpr ⟨short_rounded n, h⟩)
      else .infinity negative := by
  obtain ⟨most, hmost, hpast⟩ := exists_pastAll_eq
  have hsignificand : divNearest n (2 ^ (n.log2 - 52)) ≤ 2 ^ 53 := divNearest_le (lt_two_pow_shift n)
  simp only [nearest, Nat.div_one, Nat.one_mul]
  split
  · rename_i hsmall
    have hless : rounded n < pastAll := (representable_iff.mp ⟨_, _, hsmall.1, hsmall.2, rfl⟩).2
    rw [dif_pos hless]
    rfl
  · rename_i hlarge
    split
    · rename_i hfull
      have hcount : Nat.pow 2 52 * Nat.pow 2 (n.log2 - 52 + 1) = rounded n := by
        have hfull' : divNearest n (2 ^ (n.log2 - 52)) = 2 ^ 53 := hfull.1
        rw [rounded, hfull', Nat.pow_eq, Nat.pow_eq, ← Nat.pow_add, ← Nat.pow_add,
          show 52 + (n.log2 - 52 + 1) = 53 + (n.log2 - 52) by omega]
      have hless : rounded n < pastAll :=
        (representable_iff.mp ⟨_, _, by decide, hfull.2, hcount.symm⟩).2
      rw [dif_pos hless]
      simp only [hcount]
    · rename_i hfull
      rw [dif_neg]
      rw [Nat.not_lt, hpast]
      by_cases hshift : n.log2 - 52 ≤ most
      · -- Only the topmost count with too many bits by one is left.
        have hsmall : ¬divNearest n (2 ^ (n.log2 - 52)) < 2 ^ 53 := fun hless => hlarge ⟨hless, by omega⟩
        have heq : divNearest n (2 ^ (n.log2 - 52)) = 2 ^ 53 := by omega
        have htop : n.log2 - 52 = most := by
          by_contra hne
          exact hfull ⟨heq, by omega⟩
        rw [rounded, heq, htop]
      · refine le_rounded ((short_two_pow 53).mul_two_pow most) ?_
        calc
          2 ^ 53 * 2 ^ most = 2 ^ (53 + most) := (Nat.pow_add 2 53 most).symm
          _ ≤ 2 ^ n.log2 := Nat.pow_le_pow_right (by decide) (by omega)
          _ ≤ n := Nat.log2_self_le (by rintro rfl; simp at hshift)

theorem nearest_mul_right {k : Nat} (hk : 0 < k) (negative : Bool) (n d : Nat) :
    nearest negative (n * k) (d * k) = nearest negative n d := by
  have hquotient (scale : Nat) : divNearest (n * k) (d * k * scale) = divNearest n (d * scale) := by
    rw [Nat.mul_right_comm, divNearest_mul_right hk]
  simp only [nearest, Nat.mul_div_mul_right _ _ hk, hquotient]

end Binary64

end JsonSchema
