import Mathlib.Algebra.Order.Group.Nat
import Mathlib.Tactic.Ring
import Metrology.Number.Rounding

namespace Metrology

theorem pow10_add (j k : Nat) : pow10 (j + k) = pow10 j * pow10 k :=
  Nat.pow_add 10 j k

theorem pow10_zero : pow10 0 = 1 := rfl

theorem pow10_lt_iff {j k : Nat} : pow10 j < pow10 k ↔ j < k :=
  Nat.pow_lt_pow_iff_right (by decide)

/-- A number of more than so many digits is at least that power of ten. -/
theorem lt_digitCount_iff {n k : Nat} (h : 0 < k) : k < digitCount n ↔ pow10 k ≤ n := by
  have := digitCount_le_iff (n := n) h
  omega

theorem pow10_le_of_digitCount {n : Nat} (h : n ≠ 0) : pow10 (digitCount n - 1) ≤ n := by
  by_cases hd : digitCount n - 1 = 0
  · rw [hd, pow10_zero]
    omega
  · apply (lt_digitCount_iff (by omega)).mp
    omega

/-- The length of a number is told by the powers of ten around it. -/
theorem digitCount_eq {n k : Nat} (hl : pow10 k ≤ n) (hu : n < pow10 (k + 1)) :
    digitCount n = k + 1 := by
  apply Nat.le_antisymm
  · exact (digitCount_le_iff (by omega)).mpr hu
  · by_cases hk : k = 0
    · have := digitCount_pos n
      omega
    · exact (lt_digitCount_iff (by omega)).mpr hl

theorem digitCount_mul_pow10 {n : Nat} (h : n ≠ 0) (k : Nat) :
    digitCount (n * pow10 k) = digitCount n + k := by
  have hpos := digitCount_pos n
  have hl := pow10_le_of_digitCount h
  have hu := lt_pow10_digitCount n
  have he : digitCount (n * pow10 k) = (digitCount n - 1 + k) + 1 := by
    apply digitCount_eq
    · rw [pow10_add]
      exact Nat.mul_le_mul_right _ hl
    · rw [show digitCount n - 1 + k + 1 = digitCount n + k by omega, pow10_add]
      exact Nat.mul_lt_mul_of_pos_right hu (pow10_pos k)
  omega

theorem digitCount_div_pow10 {n k : Nat} (h : pow10 k ≤ n) :
    digitCount n = digitCount (n / pow10 k) + k := by
  have hq : n / pow10 k ≠ 0 := (Nat.div_pos h (pow10_pos k)).ne'
  have hpos := digitCount_pos (n / pow10 k)
  have hl := Nat.mul_le_mul_right (pow10 k) (pow10_le_of_digitCount hq)
  have hu := (Nat.div_lt_iff_lt_mul (pow10_pos k)).mp (lt_pow10_digitCount (n / pow10 k))
  have he : digitCount n = (digitCount (n / pow10 k) - 1 + k) + 1 := by
    apply digitCount_eq
    · rw [pow10_add]
      exact hl.trans (Nat.div_mul_le_self n (pow10 k))
    · rw [show digitCount (n / pow10 k) - 1 + k + 1 = digitCount (n / pow10 k) + k by omega,
        pow10_add]
      exact hu
  omega

theorem digitCount_pow10 (k : Nat) : digitCount (pow10 k) = k + 1 :=
  digitCount_eq (Nat.le_refl _) (pow10_lt_iff.mpr (Nat.lt_succ_self k))

/-- Only the quotient counts, and not how it is written. -/
theorem roundHalfEven_mul (n d : Nat) {k : Nat} (hk : 0 < k) :
    roundHalfEven (n * k) (d * k) = roundHalfEven n d := by
  unfold roundHalfEven
  rw [Nat.mul_div_mul_right n d hk, Nat.mul_mod_mul_right]
  have hl : 2 * (n % d * k) < d * k ↔ 2 * (n % d) < d := by
    rw [← Nat.mul_assoc]
    exact Nat.mul_lt_mul_right hk
  have hg : d * k < 2 * (n % d * k) ↔ d < 2 * (n % d) := by
    rw [← Nat.mul_assoc]
    exact Nat.mul_lt_mul_right hk
  simp only [hl, hg]

theorem roundHalfEven_exact (n : Nat) {d : Nat} (hd : 0 < d) : roundHalfEven (n * d) d = n := by
  have h := roundHalfEven_mul n 1 hd
  rw [Nat.one_mul, roundHalfEven_one] at h
  exact h

theorem roundHalfEven_le {n d m : Nat} (h : n ≤ m * d) : roundHalfEven n d ≤ m := by
  by_cases hd : d = 0
  · subst hd
    have hn : n = 0 := by omega
    subst hn
    simp [roundHalfEven]
  · have hpos : 0 < d := by omega
    have hq : n / d ≤ m := Nat.div_le_of_le_mul (by rwa [Nat.mul_comm])
    have hs := Nat.div_add_mod n d
    unfold roundHalfEven
    by_cases hlt : n / d < m
    · dsimp only
      split
      · omega
      · split <;> omega
    · -- The quotient is the bound itself, and then it leaves no remainder.
      have hqm : n / d = m := by omega
      have hr : n % d = 0 := by
        rw [hqm, Nat.mul_comm d m] at hs
        omega
      simp [hr, hpos, hqm]

theorem le_roundHalfEven {n d m : Nat} (hd : 0 < d) (h : m * d ≤ n) : m ≤ roundHalfEven n d := by
  have hq : m ≤ n / d := (Nat.le_div_iff_mul_le hd).mpr h
  unfold roundHalfEven
  dsimp only
  split
  · exact hq
  · split <;> omega

/-- Away from the multiples of a half, what is behind the last of them does not count. -/
theorem roundHalfEven_eq {n h : Nat} (hr : n % h ≠ 0) (hpos : 0 < h) (m : Nat) :
    roundHalfEven n (h * (2 * m)) =
      if n / h % (2 * m) < m then n / h / (2 * m) else n / h / (2 * m) + 1 := by
  have hdiv : n % (h * (2 * m)) / h = n / h % (2 * m) := Nat.mod_mul_right_div_self n h (2 * m)
  have hmod : n % (h * (2 * m)) % h = n % h := Nat.mod_mul_right_mod n h (2 * m)
  have hsplit := Nat.div_add_mod (n % (h * (2 * m))) h
  have hlt := Nat.mod_lt n hpos
  rw [hdiv, hmod] at hsplit
  have htwice : h * (2 * m) = 2 * (h * m) := by ring
  unfold roundHalfEven
  rw [Nat.div_div_eq_div_mul]
  by_cases hm : n / h % (2 * m) < m
  · have hle := Nat.mul_le_mul_left h hm
    rw [Nat.succ_eq_add_one, Nat.mul_add, Nat.mul_one] at hle
    rw [if_pos hm]
    exact if_pos (by omega)
  · have hle := Nat.mul_le_mul_left h (Nat.le_of_not_lt hm)
    rw [if_neg hm]
    dsimp only
    rw [if_neg (by omega), if_pos (by omega)]

/-- Between two neighbouring multiples of a half all numbers are rounded alike. -/
theorem roundHalfEven_congr {n₁ n₂ h : Nat} (hq : n₁ / h = n₂ / h) (h₁ : n₁ % h ≠ 0)
    (h₂ : n₂ % h ≠ 0) (hpos : 0 < h) (m : Nat) :
    roundHalfEven n₁ (h * (2 * m)) = roundHalfEven n₂ (h * (2 * m)) := by
  rw [roundHalfEven_eq h₁ hpos, roundHalfEven_eq h₂ hpos, hq]

end Metrology
