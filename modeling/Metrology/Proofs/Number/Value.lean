import Mathlib.Algebra.Order.Field.Power
import Mathlib.Data.Rat.Cast.Order
import Mathlib.Tactic.FieldSimp
import Mathlib.Tactic.Linarith
import Metrology.Number.Order
import Metrology.Proofs.Number.Digits
import Metrology.Proofs.Number.Ratio

namespace Metrology

namespace Number

theorem compareRat_lt {a b : Rat} : compareRat a b = .lt ↔ a < b := by
  unfold compareRat
  split
  · simp [*]
  · split <;> simp [*]

theorem compareRat_gt {a b : Rat} : compareRat a b = .gt ↔ b < a := by
  unfold compareRat
  rcases lt_trichotomy a b with h | h | h
  · simp [h, h.not_gt]
  · simp [h]
  · simp [h, h.not_gt, h.ne']

theorem compareRat_eq_iff {a b : Rat} : compareRat a b = .eq ↔ a = b := by
  unfold compareRat
  rcases lt_trichotomy a b with h | h | h
  · simp [h, h.ne]
  · simp [h]
  · simp [h.not_gt, h.ne']

theorem compareRat_swap (a b : Rat) : (compareRat a b).swap = compareRat b a := by
  rcases lt_trichotomy a b with h | h | h
  · rw [compareRat_lt.mpr h, compareRat_gt.mpr h]
    rfl
  · rw [compareRat_eq_iff.mpr h, compareRat_eq_iff.mpr h.symm]
    rfl
  · rw [compareRat_gt.mpr h, compareRat_lt.mpr h]
    rfl

theorem compareRat_neg (a b : Rat) : compareRat (-a) (-b) = compareRat b a := by
  simp only [compareRat, neg_lt_neg_iff, neg_inj, eq_comm]

/-- The order of two fractions is the sign of their difference. -/
theorem compareRat_sub (a b : Rat) : compareRat (a - b) 0 = compareRat a b := by
  simp only [compareRat, sub_neg, sub_eq_zero]

theorem compareRat_intCast (a b : Int) : compareRat a b = compare a b := by
  rcases lt_trichotomy a b with h | h | h
  · rw [compareRat_lt.mpr (by exact_mod_cast h), compare_lt_iff_lt.mpr h]
  · rw [compareRat_eq_iff.mpr (by rw [h]), compare_eq_iff_eq.mpr h]
  · rw [compareRat_gt.mpr (by exact_mod_cast h), compare_gt_iff_gt.mpr h]

end Number

open Number

/-- An integer times a power of ten. -/
def scaled (m : Int) (e : Int) : Rat :=
  m * 10 ^ e

theorem ten_zpow_pos (e : Int) : (0 : Rat) < 10 ^ e :=
  zpow_pos (by norm_num) e

/-- Zeros may be put behind a number if its exponent is lowered. -/
theorem scaled_shift (m e : Int) (k : Nat) : scaled (m * pow10 k) (e - k) = scaled m e := by
  have hk : ((pow10 k : Nat) : Rat) = 10 ^ (k : Int) := by simp [pow10]
  have h10 : (10 : Rat) ≠ 0 := by norm_num
  unfold scaled
  push_cast
  rw [hk, mul_assoc, ← zpow_add₀ h10, add_sub_cancel]

theorem scaled_lower (m : Int) {e low : Int} (h : low ≤ e) :
    scaled m e = scaled (m * pow10 (e - low).toNat) low := by
  have hs := scaled_shift m e (e - low).toNat
  rw [show e - ((e - low).toNat : Int) = low by omega] at hs
  exact hs.symm

@[simp] theorem scaled_zero (e : Int) : scaled 0 e = 0 := by
  simp [scaled]

theorem scaled_neg (m e : Int) : scaled (-m) e = -scaled m e := by
  simp [scaled]

theorem scaled_add (m n e : Int) : scaled (m + n) e = scaled m e + scaled n e := by
  simp [scaled, add_mul]

theorem scaled_mul (m n e f : Int) : scaled (m * n) (e + f) = scaled m e * scaled n f := by
  rw [scaled, scaled, scaled, zpow_add₀ (by norm_num)]
  push_cast
  ring

theorem scaled_lt_iff {m n e : Int} : scaled m e < scaled n e ↔ m < n := by
  rw [scaled, scaled, mul_lt_mul_iff_left₀ (ten_zpow_pos e)]
  exact_mod_cast Iff.rfl

theorem scaled_inj {m n e : Int} : scaled m e = scaled n e ↔ m = n := by
  rw [scaled, scaled, mul_left_inj' (ten_zpow_pos e).ne']
  exact_mod_cast Iff.rfl

theorem scaled_neg_iff {m e : Int} : scaled m e < 0 ↔ m < 0 := by
  rw [← scaled_zero e, scaled_lt_iff]

theorem scaled_pos_iff {m e : Int} : 0 < scaled m e ↔ 0 < m := by
  rw [← scaled_zero e, scaled_lt_iff]

theorem scaled_lt_of_sign {m₁ m₂ : Int} (h : m₁.sign < m₂.sign) (e₁ e₂ : Int) :
    scaled m₁ e₁ < scaled m₂ e₂ := by
  rcases lt_trichotomy m₁ 0 with h₁ | h₁ | h₁
  · have hn : 0 ≤ m₂ := by
      by_contra hm
      rw [Int.sign_eq_neg_one_of_neg h₁, Int.sign_eq_neg_one_of_neg (by omega)] at h
      omega
    exact lt_of_lt_of_le (scaled_neg_iff.mpr h₁) (not_lt.mp (mt scaled_neg_iff.mp (by omega)))
  · subst h₁
    rw [scaled_zero]
    exact scaled_pos_iff.mpr (Int.sign_pos_iff.mp h)
  · rw [Int.sign_eq_one_of_pos h₁] at h
    rcases Int.sign_trichotomy m₂ with hs | hs | hs <;> omega

theorem compareRat_scaled (m n e : Int) :
    compareRat (scaled m e) (scaled n e) = compare m n := by
  rw [scaled, scaled, compareRat_mul _ _ (ten_zpow_pos e), compareRat_intCast]

theorem compare_natCast (m n : Nat) : compare (m : Int) n = compare m n := by
  rcases lt_trichotomy m n with h | h | h
  · rw [compare_lt_iff_lt.mpr h, compare_lt_iff_lt.mpr (by exact_mod_cast h)]
  · rw [compare_eq_iff_eq.mpr h, compare_eq_iff_eq.mpr (by rw [h])]
  · rw [compare_gt_iff_gt.mpr h, compare_gt_iff_gt.mpr (by exact_mod_cast h)]

/-- The place of the leading digit of a number gives bounds for it. -/
theorem scaled_bounds {c : Nat} (hc : c ≠ 0) (e : Int) :
    (10 : Rat) ^ Decimal.adjusted c e ≤ scaled c e ∧
      scaled c e < 10 ^ (Decimal.adjusted c e + 1) := by
  have hl := pow10_le_of_digitCount hc
  have hu := lt_pow10_digitCount c
  have hpos := digitCount_pos c
  have h10 : (10 : Rat) ≠ 0 := by norm_num
  have hpow (k : Nat) : (10 : Rat) ^ (e + k) = (pow10 k : Nat) * 10 ^ e := by
    rw [zpow_add₀ h10, mul_comm]
    simp [pow10]
  have hlow : Decimal.adjusted c e = e + (digitCount c - 1 : Nat) := by
    unfold Decimal.adjusted
    omega
  have hhigh : Decimal.adjusted c e + 1 = e + (digitCount c : Nat) := by
    unfold Decimal.adjusted
    omega
  rw [hhigh, hlow, hpow, hpow, scaled, mul_le_mul_iff_left₀ (ten_zpow_pos e),
    mul_lt_mul_iff_left₀ (ten_zpow_pos e)]
  exact ⟨by exact_mod_cast hl, by exact_mod_cast hu⟩

theorem scaled_lt_of_adjusted {c₁ c₂ : Nat} {e₁ e₂ : Int} (h₁ : c₁ ≠ 0) (h₂ : c₂ ≠ 0)
    (h : Decimal.adjusted c₁ e₁ < Decimal.adjusted c₂ e₂) : scaled c₁ e₁ < scaled c₂ e₂ :=
  calc scaled c₁ e₁ < 10 ^ (Decimal.adjusted c₁ e₁ + 1) := (scaled_bounds h₁ e₁).2
    _ ≤ 10 ^ Decimal.adjusted c₂ e₂ := zpow_le_zpow_right₀ (by norm_num) h
    _ ≤ scaled c₂ e₂ := (scaled_bounds h₂ e₂).1

namespace Extent

theorem compareMagnitude_eq (c₁ : Nat) (e₁ : Int) (c₂ : Nat) (e₂ : Int) :
    compareMagnitude c₁ e₁ c₂ e₂ = compareRat (scaled c₁ e₁) (scaled c₂ e₂) := by
  unfold compareMagnitude
  by_cases hz : c₁ = 0 ∨ c₂ = 0
  · rw [if_pos hz, ← compare_natCast]
    rcases hz with rfl | rfl
    · rw [← compareRat_scaled _ _ e₂]
      simp
    · rw [← compareRat_scaled _ _ e₁]
      simp
  · obtain ⟨h₁, h₂⟩ := not_or.mp hz
    rw [if_neg hz]
    dsimp only
    split
    · -- Behind the same leading place the coefficients are aligned at the lower exponent.
      have hlow₁ := scaled_lower c₁ (min_le_left e₁ e₂)
      have hlow₂ := scaled_lower c₂ (min_le_right e₁ e₂)
      rw [show (e₁ - min e₁ e₂).toNat = (e₁ - e₂).toNat by omega] at hlow₁
      rw [show (e₂ - min e₁ e₂).toNat = (e₂ - e₁).toNat by omega] at hlow₂
      rw [hlow₁, hlow₂, compareRat_scaled, ← compare_natCast]
      simp
    · next hne =>
      rcases lt_or_gt_of_ne hne with h | h
      · rw [compare_lt_iff_lt.mpr h, compareRat_lt.mpr (scaled_lt_of_adjusted h₁ h₂ h)]
      · rw [compare_gt_iff_gt.mpr h, compareRat_gt.mpr (scaled_lt_of_adjusted h₂ h₁ h)]

theorem compareScaled_eq (m₁ e₁ m₂ e₂ : Int) :
    compareScaled m₁ e₁ m₂ e₂ = compareRat (scaled m₁ e₁) (scaled m₂ e₂) := by
  unfold compareScaled
  by_cases hs : m₁.sign = m₂.sign
  · rw [if_pos hs]
    by_cases hn : m₁ < 0
    · have hn₂ : m₂ < 0 := by rwa [← Int.sign_eq_neg_one_iff_neg, ← hs, Int.sign_eq_neg_one_iff_neg]
      have h₁ : (m₁.natAbs : Int) = -m₁ := by omega
      have h₂ : (m₂.natAbs : Int) = -m₂ := by omega
      rw [if_pos hn, compareMagnitude_eq, h₁, h₂, scaled_neg, scaled_neg, compareRat_neg]
    · have hn₂ : ¬m₂ < 0 := by
        rwa [← Int.sign_eq_neg_one_iff_neg, ← hs, Int.sign_eq_neg_one_iff_neg]
      have h₁ : (m₁.natAbs : Int) = m₁ := by omega
      have h₂ : (m₂.natAbs : Int) = m₂ := by omega
      rw [if_neg hn, compareMagnitude_eq, h₁, h₂]
  · rw [if_neg hs]
    rcases lt_or_gt_of_ne hs with h | h
    · rw [compare_lt_iff_lt.mpr h, compareRat_lt.mpr (scaled_lt_of_sign h e₁ e₂)]
    · rw [compare_gt_iff_gt.mpr h, compareRat_gt.mpr (scaled_lt_of_sign h e₂ e₁)]

/-- Whether an extent is the finite one of a fraction. -/
def Denotes (x : Extent) (q : Rat) : Prop :=
  ∃ n e d, x = finite n e d ∧ 0 < d ∧ scaled n e / d = q

theorem denotes_ofRat (q : Rat) : (ofRat q).Denotes q := by
  refine ⟨q.num, 0, q.den, rfl, q.den_pos, ?_⟩
  rw [scaled, zpow_zero, mul_one]
  exact Rat.num_div_den q

theorem Denotes.compare?_eq {x y : Extent} {p q : Rat} (hx : x.Denotes p) (hy : y.Denotes q) :
    x.compare? y = some (compareRat p q) := by
  obtain ⟨n₁, e₁, d₁, rfl, h₁, rfl⟩ := hx
  obtain ⟨n₂, e₂, d₂, rfl, h₂, rfl⟩ := hy
  have hp₁ : (0 : Rat) < d₁ := by exact_mod_cast h₁
  have hp₂ : (0 : Rat) < d₂ := by exact_mod_cast h₂
  have hs₁ : scaled (n₁ * d₂) e₁ = scaled n₁ e₁ / d₁ * (d₁ * d₂) := by
    unfold scaled
    push_cast
    field_simp
  have hs₂ : scaled (n₂ * d₁) e₂ = scaled n₂ e₂ / d₂ * (d₁ * d₂) := by
    unfold scaled
    push_cast
    field_simp
  change some (compareScaled (n₁ * d₂) e₁ (n₂ * d₁) e₂) = _
  rw [compareScaled_eq, hs₁, hs₂, compareRat_mul _ _ (mul_pos hp₁ hp₂)]

theorem compare?_self {x : Extent} (h : ∀ signaling, x ≠ nan signaling) :
    x.compare? x = some .eq := by
  cases x with
  | finite n e d =>
    change some (compareScaled (n * d) e (n * d) e) = _
    rw [compareScaled_eq, compareRat_eq_iff.mpr rfl]
  | infinite s => simp [compare?]
  | nan signaling => exact absurd rfl (h signaling)

end Extent

/-- The exact value of a decimal, if it is finite. -/
def Decimal.value? : Decimal → Option Rat
  | finite s c e => some (scaled (signed s c) e)
  | _ => none

namespace Number

/-- The exact value of a number, if it is finite. -/
def value? : Number → Option Rat
  | int n => some n
  | ratio q => some q
  | float x => Binary64.toRat? x
  | decimal d => d.value?

theorem extent_denotes {a : Number} {q : Rat} (h : a.value? = some q) : a.extent.Denotes q := by
  cases a with
  | int n =>
    obtain rfl := Option.some.inj h
    exact Extent.denotes_ofRat n
  | ratio r =>
    obtain rfl := Option.some.inj h
    exact Extent.denotes_ofRat r
  | float x =>
    have hx : Binary64.toRat? x = some q := h
    simp only [extent, hx]
    exact Extent.denotes_ofRat q
  | decimal d =>
    cases d with
    | finite s c e =>
      obtain rfl := Option.some.inj h
      exact ⟨Decimal.signed s c, e, 1, rfl, one_pos, by simp⟩
    | infinite s => cases h
    | nan s g p => cases h

/-- Finite numbers compare as their exact values do, whatever kinds the two are of. -/
theorem compare?_eq {a b : Number} {p q : Rat} (ha : a.value? = some p) (hb : b.value? = some q) :
    a.compare? b = some (compareRat p q) := by
  have hextent := (extent_denotes ha).compare?_eq (extent_denotes hb)
  unfold compare?
  split
  · obtain rfl := Option.some.inj ha
    obtain rfl := Option.some.inj hb
    rw [compareRat_intCast]
  · obtain rfl := Option.some.inj ha
    obtain rfl := Option.some.inj hb
    rfl
  · obtain rfl := Option.some.inj ha
    obtain rfl := Option.some.inj hb
    rfl
  · obtain rfl := Option.some.inj ha
    obtain rfl := Option.some.inj hb
    rfl
  · exact hextent

theorem order_eq {a b : Number} {p q : Rat} (ha : a.value? = some p) (hb : b.value? = some q) :
    a.order b = .ok (some (compareRat p q)) := by
  rw [order, compare?_eq ha hb]

theorem isSignaling_of_value? {a : Number} {q : Rat} (h : a.value? = some q) :
    a.extent.isSignaling = false := by
  obtain ⟨n, e, d, hx, -, -⟩ := extent_denotes h
  rw [hx]
  rfl

/-- Finite numbers are equal if their exact values are. -/
theorem equal_eq {a b : Number} {p q : Rat} (ha : a.value? = some p) (hb : b.value? = some q) :
    a.equal b = .ok (decide (p = q)) := by
  rw [equal, isSignaling_of_value? ha, isSignaling_of_value? hb, compare?_eq ha hb]
  exact congrArg Except.ok (compareRat_eq p q)

/-- All numbers but a NaN are equal to themselves. -/
theorem equal_self {a : Number} (h : ∀ signaling, a.extent ≠ .nan signaling) :
    a.equal a = .ok true := by
  have hsignaling : a.extent.isSignaling = false := by
    cases he : a.extent with
    | nan signaling => exact absurd he (h signaling)
    | finite n e d => rfl
    | infinite s => rfl
  have hcompare : a.compare? a = some .eq := by
    cases a with
    | int n => simp [compare?]
    | ratio q => simp [compare?, compareRat_eq_iff]
    | float x => exact Extent.compare?_self h
    | decimal d => exact Extent.compare?_self h
  rw [equal, hsignaling, hcompare]
  rfl

end Number

end Metrology
