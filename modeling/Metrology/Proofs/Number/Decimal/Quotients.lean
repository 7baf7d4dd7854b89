import Metrology.Number.Decimal.Power
import Metrology.Proofs.Number.Decimal.Operations

namespace Metrology.Decimal

theorem held_one : Held precision 1 0 :=
  ⟨by decide, by decide, by decide⟩

theorem stripZeros_value (s : Bool) (n c : Nat) (e : Int) :
    scaled (signed s (stripZeros n c e).1) (stripZeros n c e).2 = scaled (signed s c) e := by
  induction n generalizing c e with
  | zero => rfl
  | succ n ih =>
    rw [stripZeros]
    by_cases h : c % 10 = 0
    · have hc : c / 10 * pow10 1 = c := by
        change c / 10 * 10 = c
        omega
      have hshift := scaled_shift (signed s (c / 10)) (e + 1) 1
      rw [← signed_mul, hc, Nat.cast_one, add_sub_cancel_right] at hshift
      rw [if_pos h, ih, hshift]
    · rw [if_neg h]

theorem stripZeros_pow10 (n : Nat) (e : Int) : stripZeros n (pow10 n) e = (1, e + n) := by
  induction n generalizing e with
  | zero => simp [stripZeros, pow10]
  | succ n ih =>
    have hten : pow10 (n + 1) % 10 = 0 := by
      rw [pow10_succ, Nat.mul_mod_left]
    rw [stripZeros, if_pos hten, pow10_div_ten (Nat.succ_pos n), Nat.succ_sub_one, ih]
    congr 1
    push_cast
    ring

theorem adjusted_eq_of_scaled {c₁ c₂ : Nat} {e₁ e₂ : Int} (h₁ : c₁ ≠ 0) (h₂ : c₂ ≠ 0)
    (h : scaled c₁ e₁ = scaled c₂ e₂) : adjusted c₁ e₁ = adjusted c₂ e₂ := by
  rcases lt_trichotomy (adjusted c₁ e₁) (adjusted c₂ e₂) with ha | ha | ha
  · exact absurd h (scaled_lt_of_adjusted h₁ h₂ ha).ne
  · exact ha
  · exact absurd h (scaled_lt_of_adjusted h₂ h₁ ha).ne'

/-- The digits of equal numbers are brought so far apart that their quotient is a power of ten. -/
theorem quotient_of_scaled {c₁ c₂ : Nat} {e₁ e₂ : Int} (h₁ : c₁ ≠ 0) (h₂ : c₂ ≠ 0)
    (h : scaled c₁ e₁ = scaled c₂ e₂) (digits : Nat) :
    quotient digits c₁ e₁ c₂ e₂ = stripZeros (e₁ - e₂ + digits + 1).toNat (pow10 (digits + 1))
      (-(digits + 1 : Nat)) := by
  have hadjusted := adjusted_eq_of_scaled h₁ h₂ h
  unfold adjusted at hadjusted
  have hshift : (digitCount c₂ : Int) - digitCount c₁ + digits + 1 = e₁ - e₂ + digits + 1 := by
    omega
  unfold quotient
  simp only [hshift]
  generalize hS : e₁ - e₂ + digits + 1 = S
  have hd : 0 < c₂ * pow10 (-S).toNat := Nat.mul_pos (Nat.pos_of_ne_zero h₂) (pow10_pos _)
  have hn : c₁ * pow10 S.toNat = pow10 (digits + 1) * (c₂ * pow10 (-S).toNat) := by
    have hleft := scaled_shift c₁ e₁ S.toNat
    have hright := scaled_shift c₂ e₂ ((-S).toNat + (digits + 1))
    rw [← h, ← hleft,
      show e₂ - ((-S).toNat + (digits + 1) : Nat) = e₁ - S.toNat by omega, scaled_inj] at hright
    have hnat : c₂ * pow10 ((-S).toNat + (digits + 1)) = c₁ * pow10 S.toNat := by
      exact_mod_cast hright
    rw [← hnat, pow10_add]
    ring
  rw [hn, Nat.mul_mod_left, if_pos rfl, Nat.mul_div_cancel _ hd]
  congr 1
  omega

/-- Decimals of one value other than zero have one sign and one magnitude. -/
theorem magnitude_of_value {s₁ s₂ : Bool} {c₁ c₂ : Nat} {e₁ e₂ : Int} (hc : c₁ ≠ 0)
    (h : scaled (signed s₁ c₁) e₁ = scaled (signed s₂ c₂) e₂) :
    s₁ = s₂ ∧ scaled c₁ e₁ = scaled c₂ e₂ := by
  have h₁ : 0 < scaled c₁ e₁ := scaled_pos_iff.mpr (by omega)
  have h₂ : 0 ≤ scaled c₂ e₂ := not_lt.mp (mt scaled_neg_iff.mp (by omega))
  cases s₁ <;> cases s₂ <;>
    simp only [signed, Bool.false_eq_true, if_true, if_false, scaled_neg, neg_inj] at h
  · exact ⟨rfl, h⟩
  · linarith
  · linarith
  · exact ⟨rfl, h⟩

/-- The quotient of finite decimals, the second not zero, is finite or too large. -/
theorem div_within {a b : Decimal} {p q : Rat} (ha : a.value? = some p) (hb : b.value? = some q)
    (hq : q ≠ 0) : Within (a.div b) := by
  cases a <;> cases b <;> try contradiction
  next s₁ c₁ e₁ s₂ c₂ e₂ =>
    obtain rfl := Option.some.inj hb
    have h₂ : c₂ ≠ 0 := by
      intro h
      simp [h] at hq
    change Within (divFinite precision s₁ c₁ e₁ s₂ c₂ e₂)
    rw [divFinite, if_neg h₂]
    split
    · exact round_within precision _ _ _
    · exact round_within precision _ _ _

/-- Decimals of one value have the quotient one. -/
theorem div_of_value {a b : Decimal} {q : Rat} (ha : a.value? = some q) (hb : b.value? = some q)
    (hq : q ≠ 0) : ∃ d, a.div b = .ok d ∧ d.value? = some 1 := by
  cases a <;> cases b <;> try contradiction
  next s₁ c₁ e₁ s₂ c₂ e₂ =>
    obtain rfl := Option.some.inj ha
    have hvalue := Option.some.inj hb
    have h₁ : c₁ ≠ 0 := by
      intro h
      simp [h] at hq
    have h₂ : c₂ ≠ 0 := by
      intro h
      simp [h] at hvalue
      exact hq hvalue.symm
    obtain ⟨rfl, hscaled⟩ := magnitude_of_value h₁ hvalue.symm
    have hone : scaled (signed false (quotient precision c₁ e₁ c₂ e₂).1)
        (quotient precision c₁ e₁ c₂ e₂).2 = scaled (signed false 1) 0 := by
      rw [quotient_of_scaled h₁ h₂ hscaled, stripZeros_value]
      have hshift := scaled_shift 1 0 (precision + 1)
      rw [one_mul, zero_sub] at hshift
      exact hshift
    have hround := round_sameValue precision hone
    rw [round_of_held held_one] at hround
    obtain ⟨d, hd, hvalue⟩ := hround.ok
    refine ⟨d, ?_, hvalue.trans (congrArg some (by simp [signed, scaled]))⟩
    change divFinite precision s₁ c₁ e₁ s₁ c₂ e₂ = _
    rw [divFinite, if_neg h₂, if_neg h₁, Bool.xor_self]
    exact hd

theorem div_self {s : Bool} {c : Nat} (hc : c ≠ 0) (e : Int) :
    (finite s c e).div (finite s c e) = .ok (finite false 1 0) := by
  have hquotient : quotient precision c e c e = (1, 0) := by
    rw [quotient_of_scaled hc hc rfl, sub_self, zero_add]
    exact stripZeros_pow10 (precision + 1) _
  change divFinite precision s c e s c e = _
  rw [divFinite, if_neg hc, if_neg hc, hquotient, Bool.xor_self]
  exact round_of_held held_one false

end Metrology.Decimal
