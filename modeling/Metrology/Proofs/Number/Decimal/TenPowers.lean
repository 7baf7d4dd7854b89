import Metrology.Proofs.Number.Decimal.Quotients

namespace Metrology.Decimal

/-- Whether an exponent lies in the range of the context. -/
def InRange (e : Int) : Prop :=
  minExponent ≤ e ∧ e ≤ maxExponent

theorem inRange_iff {e : Int} : InRange e ↔ e.natAbs ≤ 999999 := by
  unfold InRange minExponent maxExponent
  omega

/-- What has more factors is farther out. -/
theorem InRange.of_mul_le {b : Int} {m n : Nat} (h : InRange (b * n)) (hm : m ≤ n) :
    InRange (b * m) := by
  rw [inRange_iff, Int.natAbs_mul, Int.natAbs_natCast] at h ⊢
  exact (Nat.mul_le_mul_left _ hm).trans h

theorem InRange.of_mul {b k : Int} (h : InRange (b * k)) (hk : k ≠ 0) : InRange b := by
  rw [inRange_iff, Int.natAbs_mul] at h
  rw [inRange_iff]
  exact (Nat.le_mul_of_pos_right _ (Int.natAbs_pos.mpr hk)).trans h

theorem held_ten {e : Int} (h : InRange e) {digits : Nat} (hd : 0 < digits) : Held digits 1 e := by
  have hone : digitCount 1 = 1 := rfl
  obtain ⟨hlow, hhigh⟩ := h
  refine ⟨by omega, ?_, ?_⟩
  · unfold leastExponent
    omega
  · unfold adjusted
    omega

theorem mul_ten {a b : Int} (h : InRange (a + b)) :
    (finite false 1 a).mul (finite false 1 b) = .ok (finite false 1 (a + b)) :=
  round_of_held (held_ten h (by decide)) false

theorem product_ten {digits : Nat} (hd : 0 < digits) {a b : Int} (h : InRange (a + b)) :
    product digits (1, a) (1, b) = .ok (1, a + b) := by
  unfold product
  rw [Nat.one_mul, round_of_held (held_ten h hd)]

theorem reciprocal_ten {digits : Nat} (hd : 0 < digits) {e : Int} (h : InRange e) :
    reciprocal digits 1 e = .ok (1, -e) := by
  have hneg : InRange (-e) := by
    rw [inRange_iff] at h ⊢
    omega
  have hquotient : quotient digits 1 0 1 e = (1, -e) := by
    have hshift : ((digitCount 1 : Nat) : Int) - (digitCount 1 : Nat) + digits + 1 =
        (digits + 1 : Nat) := by
      push_cast
      ring
    have hback : (-((digits + 1 : Nat) : Int)).toNat = 0 := by omega
    unfold quotient
    simp only [hshift, hback, Int.toNat_natCast, Nat.one_mul, pow10_zero, Nat.mod_one, if_true,
      Nat.div_one, stripZeros_pow10]
    congr 1
    omega
  unfold reciprocal divFinite
  rw [if_neg one_ne_zero, if_neg one_ne_zero, hquotient, Bool.xor_self]
  dsimp only
  rw [round_of_held (held_ten hneg hd)]

theorem powerOfBits_append (digits : Nat) (base acc : Nat × Int) (xs ys : List Bool) :
    powerOfBits digits base acc (xs ++ ys) = (do
      powerOfBits digits base (← powerOfBits digits base acc xs) ys) := by
  induction xs generalizing acc with
  | nil => rfl
  | cons x xs ih =>
    cases x with
    | true => simp [powerOfBits, ih]
    | false => simp [powerOfBits, ih]

/-- The last bit of a number is behind those of its half. -/
theorem bits_half {n : Nat} (h : 2 ≤ n) : bits n = bits (n / 2) ++ [n % 2 == 1] := by
  unfold bits
  rw [Nat.toDigits_of_base_le (by decide) h, List.map_append]
  simp [beq_eq_beq]

theorem powerOfBits_ten {digits : Nat} (hd : 0 < digits) {b : Int} {n : Nat} (hn : 0 < n)
    (h : InRange (b * n)) : powerOfBits digits (1, b) (1, b) (bits n).tail = .ok (1, b * n) := by
  induction n using Nat.strong_induction_on with
  | _ n ih =>
    by_cases h1 : n = 1
    · subst h1
      rw [Nat.cast_one, mul_one]
      rfl
    · have hlast : n / 2 * 2 + n % 2 = n := Nat.div_add_mod' n 2
      have hcast : (n : Int) = (n / 2 : Nat) + (n / 2 : Nat) + (n % 2 : Nat) := by omega
      have htwice : InRange (b * (n / 2 : Nat) + b * (n / 2 : Nat)) := by
        rw [← mul_add, ← Nat.cast_add]
        exact h.of_mul_le (by omega)
      have hne : bits (n / 2) ≠ [] := by simp [bits, Nat.toDigits_ne_nil]
      rw [bits_half (by omega), List.tail_append_of_ne_nil hne, powerOfBits_append,
        ih (n / 2) (by omega) (by omega) (h.of_mul_le (Nat.div_le_self n 2))]
      change (product digits _ _ >>= _) = _
      rw [product_ten hd htwice]
      rcases Nat.mod_two_eq_zero_or_one n with hbit | hbit
      · have hsum : b * (n / 2 : Nat) + b * (n / 2 : Nat) = b * n := by
          rw [hcast, hbit, Nat.cast_zero, add_zero, mul_add]
        rw [hbit, hsum]
        rfl
      · have hsum : b * (n / 2 : Nat) + b * (n / 2 : Nat) + b = b * n := by
          rw [hcast, hbit, Nat.cast_one, mul_add, mul_add, mul_one]
        rw [hbit]
        change (product digits (1, _) (1, b) >>= _) = _
        rw [product_ten hd (hsum ▸ h), hsum]
        rfl

theorem isUnit_ten {e : Int} (h : e ≠ 0) : isUnit 1 e = false := by
  have hone : digitCount 1 = 1 := rfl
  unfold isUnit
  rw [hone, Bool.and_eq_false_iff, Bool.and_eq_false_iff]
  left
  by_cases hneg : e ≤ 0
  · right
    exact beq_eq_false_iff_ne.mpr (by omega)
  · left
    exact decide_eq_false hneg

theorem powerFinite_ten {e k : Int} (he : e ≠ 0) (hk : k ≠ 0) (h : InRange (e * k)) :
    powerFinite 1 e k false = .ok (finite false 1 (e * k)) := by
  have hbase := h.of_mul hk
  have hheld : Held precision 1 (e * k) := held_ten h (by decide)
  -- The base is turned around for a negative exponent, and so the rest is one computation.
  have hpower {digits : Nat} (hd : 0 < digits) {b : Int} (hb : b * k.natAbs = e * k) :
      (if k.natAbs < pow2 64 then
        powerOfBits digits (1, b) (1, b) (bits k.natAbs).tail >>= fun result =>
          round precision false result.1 result.2
      else
        powerOfLowBits digits (1, 0) (1, b) (bits k.natAbs).reverse >>= fun result =>
          round precision false result.1 result.2) = .ok (finite false 1 (e * k)) := by
    have hsmall : k.natAbs < pow2 64 := by
      have hle := Nat.le_mul_of_pos_left k.natAbs (Int.natAbs_pos.mpr he)
      rw [inRange_iff, Int.natAbs_mul] at h
      change k.natAbs < 18446744073709551616
      omega
    rw [if_pos hsmall, powerOfBits_ten hd (Int.natAbs_pos.mpr hk) (hb ▸ h), hb]
    exact round_of_held hheld false
  unfold powerFinite
  rw [isUnit_ten he]
  by_cases hneg : k < 0
  · have hb : -e * k.natAbs = e * k := by
      rw [Int.ofNat_natAbs_of_nonpos hneg.le]
      ring
    have hd : 0 < precision + digitCount k.natAbs + 3 := by omega
    simp only [if_pos hneg, reciprocal_ten hd hbase]
    exact hpower hd hb
  · have hb : e * k.natAbs = e * k := by
      rw [Int.natAbs_of_nonneg (not_lt.mp hneg)]
    have hd : 0 < precision + digitCount k.natAbs + 2 := by omega
    simp only [if_neg hneg]
    exact hpower hd hb

theorem pow_ten {e k : Int} (h : InRange (e * k)) :
    (finite false 1 e).pow k = .ok (finite false 1 (e * k)) := by
  by_cases hk : k = 0
  · subst hk
    rw [mul_zero]
    rfl
  · have hpow : (finite false 1 e).pow k = powerFinite 1 e k false := if_neg hk
    rw [hpow]
    by_cases he : e = 0
    · subst he
      rw [zero_mul]
      have hplaces :
          (if k < 0 then 0 else min (k.toNat * (-0 : Int).toNat) (precision - 1)) = 0 := by
        simp
      unfold powerFinite
      rw [hplaces]
      rfl
    · exact powerFinite_ten he hk h

end Metrology.Decimal
