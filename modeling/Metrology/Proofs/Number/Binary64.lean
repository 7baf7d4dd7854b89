import Metrology.Number.Binary64
import Metrology.Proofs.Number.Digits

namespace Metrology

theorem pow2_pos (k : Nat) : 0 < pow2 k := Nat.pow_pos (by decide)

theorem pow2_zero : pow2 0 = 1 := rfl

theorem pow2_add (j k : Nat) : pow2 (j + k) = pow2 j * pow2 k :=
  Nat.pow_add 2 j k

namespace Binary64

variable {n : Nat}

theorem floorLog_one (h : n ≠ 0) : floorLog n 1 = n.log2 := by
  have hle : pow2 n.log2 ≤ n := Nat.log2_self_le h
  have hlog : (n.log2 : Int) - (Nat.log2 1 : Nat) = n.log2 := by
    have h1 : Nat.log2 1 = 0 := by decide
    omega
  unfold floorLog
  dsimp only
  rw [hlog, Int.toNat_natCast, show (-(n.log2 : Int)).toNat = 0 by omega]
  exact if_pos (by simpa [pow2] using hle)

/-- The leading one of a shifted mantissa stands at the place of the hidden bit. -/
theorem mantissa_bounds (h0 : n ≠ 0) (h : n.log2 ≤ 52) :
    hiddenBit ≤ n * pow2 (52 - n.log2) ∧ n * pow2 (52 - n.log2) < 2 * hiddenBit := by
  have hlow : pow2 n.log2 ≤ n := Nat.log2_self_le h0
  have hhigh : n < pow2 (n.log2 + 1) := Nat.lt_log2_self
  have hl := Nat.mul_le_mul_right (pow2 (52 - n.log2)) hlow
  have hh := Nat.mul_lt_mul_of_pos_right hhigh (pow2_pos (52 - n.log2))
  rw [← pow2_add, show n.log2 + (52 - n.log2) = 52 by omega] at hl
  rw [← pow2_add, show n.log2 + 1 + (52 - n.log2) = 53 by omega] at hh
  exact ⟨hl, hh⟩

/-- Mantissas without their leading one come behind the exponent. -/
theorem nearestBits_small (h0 : n ≠ 0) (h : n.log2 ≤ 52) :
    nearestBits n 1 = (n.log2 + 1022) * hiddenBit + n * pow2 (52 - n.log2) := by
  have hexp : max ((n.log2 : Int) - 52) (-1074) = n.log2 - 52 := by omega
  have hround : roundHalfEven (n * pow2 (52 - n.log2)) (1 * pow2 0) = n * pow2 (52 - n.log2) :=
    roundHalfEven_one _
  have hbits : (n.log2 + 1022) * hiddenBit + n * pow2 (52 - n.log2) ≤ infinityBits := by
    have hb := (mantissa_bounds h0 h).2
    unfold hiddenBit infinityBits at *
    omega
  unfold nearestBits
  rw [if_neg h0, floorLog_one h0, hexp]
  dsimp only
  rw [show (-((n.log2 : Int) - 52)).toNat = 52 - n.log2 by omega,
    show ((n.log2 : Int) - 52).toNat = 0 by omega, hround,
    show ((n.log2 : Int) - 52 + 1074).toNat = n.log2 + 1022 by omega]
  exact Nat.min_eq_right hbits

/-- A number that fits into a mantissa is kept, and is no infinity. -/
theorem magnitude_nearestBits_small (h0 : n ≠ 0) (h : n.log2 ≤ 52) :
    nearestBits n 1 ≠ infinityBits ∧
      magnitude (nearestBits n 1) = (n * pow2 (52 - n.log2), (n.log2 : Int) - 52) := by
  obtain ⟨hl, hh⟩ := mantissa_bounds h0 h
  rw [nearestBits_small h0 h]
  generalize n * pow2 (52 - n.log2) = m at *
  have hfield : ((n.log2 + 1022) * hiddenBit + m) / hiddenBit = n.log2 + 1023 := by
    unfold hiddenBit at *
    omega
  have hfraction : ((n.log2 + 1022) * hiddenBit + m) % hiddenBit + hiddenBit = m := by
    unfold hiddenBit at *
    omega
  constructor
  · unfold hiddenBit infinityBits at *
    omega
  · unfold magnitude
    dsimp only
    rw [hfield, if_neg (by omega), hfraction]
    exact Prod.ext rfl (by push_cast; omega)

/-- The bits keep the order of the exponents, and so the least bits of a number that does not fit
are those of the hidden bit, doubled. -/
theorem magnitude_nearestBits_large (h : 53 ≤ n.log2) :
    hiddenBit ≤ (magnitude (nearestBits n 1)).1 ∧ 1 ≤ (magnitude (nearestBits n 1)).2 := by
  have h0 : n ≠ 0 := by
    rintro rfl
    exact absurd h (by decide)
  have hexp : max ((n.log2 : Int) - 52) (-1074) = n.log2 - 52 := by omega
  have hround : hiddenBit ≤ roundHalfEven (n * pow2 0) (1 * pow2 (n.log2 - 52)) := by
    refine le_roundHalfEven (by rw [Nat.one_mul]; exact pow2_pos _) ?_
    have hlow : pow2 n.log2 ≤ n := Nat.log2_self_le h0
    rw [show n.log2 = 52 + (n.log2 - 52) by omega, pow2_add] at hlow
    rw [Nat.one_mul]
    exact hlow.trans (Nat.le_mul_of_pos_right n (pow2_pos 0))
  have hbits : 1076 * hiddenBit ≤ nearestBits n 1 := by
    unfold nearestBits
    rw [if_neg h0, floorLog_one h0, hexp]
    dsimp only
    rw [show (-((n.log2 : Int) - 52)).toNat = 0 by omega,
      show ((n.log2 : Int) - 52).toNat = n.log2 - 52 by omega,
      show ((n.log2 : Int) - 52 + 1074).toNat = n.log2 + 1022 by omega]
    refine Nat.le_min.mpr ⟨by decide, ?_⟩
    unfold hiddenBit at *
    omega
  have hfield : 1076 ≤ nearestBits n 1 / hiddenBit :=
    (Nat.le_div_iff_mul_le (by decide)).mpr hbits
  unfold magnitude
  dsimp only
  rw [if_neg (by omega)]
  exact ⟨Nat.le_add_left _ _, by dsimp only; omega⟩

end Binary64

end Metrology
