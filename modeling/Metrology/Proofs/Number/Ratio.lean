import Mathlib.Algebra.Order.Field.Basic
import Mathlib.Algebra.Order.Field.Rat
import Metrology.Operand.Arithmetic

namespace Metrology.Number

theorem pow_ratio_of_nonneg (q : Rat) {k : Int} (hk : 0 ≤ k) :
    pow (ratio q) k = .ok (ratio (q ^ k)) := by
  obtain ⟨n, rfl⟩ := Int.eq_ofNat_of_zero_le hk
  rw [pow_ratio_natCast, Rat.zpow_natCast]

theorem pow_ratio_of_ne_zero {q : Rat} (hq : q ≠ 0) (k : Int) :
    pow (ratio q) k = .ok (ratio (q ^ k)) := by
  by_cases hk : 0 ≤ k
  · exact pow_ratio_of_nonneg q hk
  · have hn : k = -((-k).toNat : Int) := by omega
    rw [pow, if_neg hk, if_neg hq, powRat_eq]
    conv => rhs; rw [hn, Rat.zpow_neg, Rat.zpow_natCast]

theorem pow_ratio_zero {k : Int} (hk : k < 0) :
    pow (ratio 0) k = .error .divisionByZero := by
  rw [pow, if_neg (by omega), if_pos rfl]

theorem compareRat_eq (a b : Rat) : (compareRat a b == .eq) = decide (a = b) := by
  unfold compareRat
  by_cases hl : a < b
  · simp [hl, ne_of_lt hl]
  · by_cases he : a = b <;> simp [hl, he]

theorem equal_ratio (a b : Rat) : equal (ratio a) (ratio b) = .ok (decide (a = b)) :=
  congrArg Except.ok (compareRat_eq a b)

theorem abs_ratio (a : Rat) : abs (ratio a) = .ok (ratio |a|) := by
  have h : a.abs = |a| := by
    rcases le_total 0 a with ha | ha
    · rw [Rat.abs_of_nonneg ha, abs_of_nonneg ha]
    · rw [Rat.abs_of_nonpos ha, abs_of_nonpos ha]
  rw [abs, h]

/-- The fraction that a relation asks about is the exact one. -/
theorem compareRat_mul (a b : Rat) {c : Rat} (hc : 0 < c) :
    compareRat (a * c) (b * c) = compareRat a b := by
  simp only [compareRat, mul_lt_mul_iff_left₀ hc, mul_left_inj' (ne_of_gt hc)]

end Metrology.Number
