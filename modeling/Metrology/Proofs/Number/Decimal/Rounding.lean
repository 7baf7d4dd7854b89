import Metrology.Proofs.Number.Value

namespace Metrology.Decimal

/-- The place of the last digit that is kept of a number other than zero. -/
def lastPlace (digits c : Nat) (e : Int) : Int :=
  max (adjusted c e - digits + 1) (leastExponent digits)

/-- Coefficient and exponent of a number that is rounded. -/
def rounded (digits c : Nat) (e : Int) : Nat × Int :=
  trim digits (quantize c e (lastPlace digits c e))

theorem round_of_ne_zero {c : Nat} (hc : c ≠ 0) (digits : Nat) (s : Bool) (e : Int) :
    round digits s c e =
      if maxExponent < adjusted (rounded digits c e).1 (rounded digits c e).2 then
        .error .decimalOverflow
      else .ok (finite s (rounded digits c e).1 (rounded digits c e).2) :=
  if_neg hc

theorem round_zero (digits : Nat) (s : Bool) (e : Int) : round digits s 0 e =
    .ok (finite s 0 (max (leastExponent digits) (min e maxExponent))) :=
  if_pos rfl

/-- Whether a coefficient and an exponent can be held with so many digits. -/
structure Held (digits c : Nat) (e : Int) : Prop where
  length : digitCount c ≤ digits
  least : leastExponent digits ≤ e
  most : adjusted c e ≤ maxExponent

theorem Held.lastPlace_le {digits c : Nat} {e : Int} (h : Held digits c e) :
    lastPlace digits c e ≤ e := by
  have hlength := h.length
  have hleast := h.least
  unfold lastPlace adjusted
  omega

theorem Held.rounded_eq {digits c : Nat} {e : Int} (h : Held digits c e) :
    rounded digits c e = (c, e) := by
  rw [rounded, quantize, if_pos h.lastPlace_le, trim, if_neg (not_lt.mpr h.length)]

theorem adjusted_zero (e : Int) : adjusted 0 e = e := by
  simp [adjusted, digitCount]

theorem round_of_held {digits c : Nat} {e : Int} (h : Held digits c e) (s : Bool) :
    round digits s c e = .ok (finite s c e) := by
  by_cases hc : c = 0
  · subst hc
    have hmost := h.most
    rw [adjusted_zero] at hmost
    rw [round_zero, min_eq_left hmost, max_eq_right h.least]
  · rw [round_of_ne_zero hc, h.rounded_eq, if_neg (not_lt.mpr h.most)]

theorem pow10_div_ten {k : Nat} (h : 0 < k) : pow10 k / 10 = pow10 (k - 1) := by
  obtain ⟨j, rfl⟩ : ∃ j, k = j + 1 := ⟨k - 1, by omega⟩
  rw [pow10_succ, Nat.mul_div_cancel _ (by decide)]
  rfl

/-- Dropping digits may leave one more than are kept only if it is all zeros behind a one. -/
theorem quantize_le {digits c : Nat} {e : Int} (h : e < lastPlace digits c e) :
    (quantize c e (lastPlace digits c e)).1 ≤ pow10 digits := by
  rw [quantize, if_neg (not_le.mpr h), dropDigits_eq]
  apply roundHalfEven_le
  have hc := lt_pow10_digitCount c
  have hle : digitCount c ≤ digits + (lastPlace digits c e - e).toNat := by
    unfold lastPlace adjusted at h ⊢
    omega
  rw [← pow10_add]
  exact Nat.le_of_lt (Nat.lt_of_lt_of_le hc (pow10_le hle))

theorem rounded_bounds {digits : Nat} (hd : 0 < digits) (c : Nat) (e : Int) :
    digitCount (rounded digits c e).1 ≤ digits ∧ leastExponent digits ≤ (rounded digits c e).2 := by
  have hleast : leastExponent digits ≤ lastPlace digits c e := le_max_right _ _
  unfold rounded
  by_cases h : lastPlace digits c e ≤ e
  · have hlength : ¬digits < digitCount c := by
      unfold lastPlace adjusted at h
      omega
    rw [quantize, if_pos h, trim, if_neg hlength]
    exact ⟨not_lt.mp hlength, hleast.trans h⟩
  · have hle := quantize_le (not_le.mp h)
    have hplace : (quantize c e (lastPlace digits c e)).2 = lastPlace digits c e := by
      rw [quantize, if_neg h]
    unfold trim
    split
    · next hlong =>
      have hq := le_antisymm hle ((lt_digitCount_iff hd).mp hlong)
      have hten := digitCount_pow10 (digits - 1)
      rw [hq, pow10_div_ten hd, hplace]
      dsimp only
      omega
    · next hshort =>
      rw [hplace]
      exact ⟨not_lt.mp hshort, hleast⟩

/-- A number that has been rounded can be held with as many digits. -/
theorem held_of_round {digits : Nat} (hd : 0 < digits) {s : Bool} {c : Nat} {e : Int} {d : Decimal}
    (h : round digits s c e = .ok d) : ∃ c' e', d = finite s c' e' ∧ Held digits c' e' := by
  by_cases hc : c = 0
  · subst hc
    rw [round_zero] at h
    have hlow : leastExponent digits ≤ maxExponent := by
      unfold leastExponent minExponent maxExponent
      omega
    refine ⟨0, _, (Except.ok.inj h).symm, ?_, le_max_left _ _, ?_⟩
    · simp [digitCount]
      omega
    · rw [adjusted_zero]
      exact max_le hlow (min_le_right _ _)
  · obtain ⟨hlength, hleast⟩ := rounded_bounds hd c e
    rw [round_of_ne_zero hc] at h
    split at h
    · cases h
    · next hmost => exact ⟨_, _, (Except.ok.inj h).symm, hlength, hleast, not_lt.mp hmost⟩

@[simp] theorem signed_zero (s : Bool) : signed s 0 = 0 := by
  cases s <;> rfl

@[simp] theorem natAbs_signed (s : Bool) (c : Nat) : (signed s c).natAbs = c := by
  cases s <;> simp [signed]

theorem signed_mul (s : Bool) (c k : Nat) : signed s (c * k) = signed s c * k := by
  cases s <;> simp [signed]

/-- A coefficient other than zero tells its sign. -/
theorem sign_of_signed {s₁ s₂ : Bool} {c₁ c₂ : Nat} (h : signed s₁ c₁ = signed s₂ c₂)
    (hc : c₁ ≠ 0) : s₁ = s₂ := by
  cases s₁ <;> cases s₂ <;> simp [signed] at h ⊢ <;> omega

theorem signed_flip (s : Bool) (c : Nat) : signed (!s) c = -signed s c := by
  cases s <;> simp [signed]

/-- The same failure, or decimals of the same value. -/
def SameValue (x y : Except Failure Decimal) : Prop :=
  x.map value? = y.map value?

theorem SameValue.symm {x y : Except Failure Decimal} (h : SameValue x y) : SameValue y x :=
  Eq.symm h

theorem SameValue.trans {x y z : Except Failure Decimal} (hxy : SameValue x y)
    (hyz : SameValue y z) : SameValue x z :=
  Eq.trans hxy hyz

theorem SameValue.ok {x : Except Failure Decimal} {d : Decimal} (h : SameValue x (.ok d)) :
    ∃ c, x = .ok c ∧ c.value? = d.value? := by
  cases x with
  | error e => cases h
  | ok c => exact ⟨c, rfl, Except.ok.inj h⟩

theorem SameValue.error {x : Except Failure Decimal} {e : Failure} (h : SameValue x (.error e)) :
    x = .error e := by
  cases x with
  | error f => exact congrArg Except.error (Except.error.inj h)
  | ok c => cases h

theorem sameValue_finite {s₁ s₂ : Bool} {c₁ c₂ : Nat} {e₁ e₂ : Int}
    (h : scaled (signed s₁ c₁) e₁ = scaled (signed s₂ c₂) e₂) :
    SameValue (.ok (finite s₁ c₁ e₁)) (.ok (finite s₂ c₂ e₂)) :=
  congrArg (fun q => Except.ok (some q)) h

theorem adjusted_shift {c : Nat} (hc : c ≠ 0) (e : Int) (k : Nat) :
    adjusted (c * pow10 k) (e - k) = adjusted c e := by
  unfold adjusted
  rw [digitCount_mul_pow10 hc]
  omega

/-- Cut to the same place, a number with zeros behind it comes to the same pair, or neither loses
anything. -/
theorem quantize_shift (c k : Nat) (e target : Int) :
    (∃ j : Nat, target ≤ e - j ∧ quantize c e target = (c, e) ∧
      quantize (c * pow10 k) (e - k) target = (c * pow10 j, e - j)) ∨
    quantize (c * pow10 k) (e - k) target = quantize c e target := by
  by_cases hlow : target ≤ e - k
  · left
    refine ⟨k, hlow, ?_, ?_⟩
    · exact if_pos (by omega)
    · exact if_pos hlow
  · by_cases hmid : target ≤ e
    · left
      have hsplit : k = (e - target).toNat + (target - (e - k)).toNat := by omega
      refine ⟨(e - target).toNat, by omega, if_pos hmid, ?_⟩
      unfold quantize
      rw [if_neg hlow, dropDigits_eq]
      nth_rewrite 1 [hsplit]
      rw [pow10_add, ← Nat.mul_assoc, roundHalfEven_exact _ (pow10_pos _)]
      congr 1
      omega
    · right
      have hsplit : (target - (e - k)).toNat = (target - e).toNat + k := by omega
      unfold quantize
      rw [if_neg hlow, if_neg hmid, dropDigits_eq, dropDigits_eq, hsplit, pow10_add,
        roundHalfEven_mul _ _ (pow10_pos k)]

theorem rounded_shift {c : Nat} (hc : c ≠ 0) (digits k : Nat) (e : Int) :
    (∃ j : Nat, rounded digits c e = (c, e) ∧
      rounded digits (c * pow10 k) (e - k) = (c * pow10 j, e - j)) ∨
    rounded digits (c * pow10 k) (e - k) = rounded digits c e := by
  have hplace : lastPlace digits (c * pow10 k) (e - k) = lastPlace digits c e := by
    rw [lastPlace, adjusted_shift hc, lastPlace]
  unfold rounded
  rw [hplace]
  rcases quantize_shift c k e (lastPlace digits c e) with ⟨j, hj, hq, hqk⟩ | hq
  · left
    have hlength : digitCount c + j ≤ digits := by
      unfold lastPlace adjusted at hj
      omega
    have hlengthj := digitCount_mul_pow10 hc j
    refine ⟨j, ?_, ?_⟩
    · rw [hq, trim, if_neg (show ¬digits < digitCount c by omega)]
    · rw [hqk, trim, if_neg (show ¬digits < digitCount (c * pow10 j) by omega)]
  · right
    rw [hq]

theorem round_shift (digits : Nat) (s : Bool) (c : Nat) (e : Int) (k : Nat) :
    SameValue (round digits s c e) (round digits s (c * pow10 k) (e - k)) := by
  by_cases hc : c = 0
  · subst hc
    rw [Nat.zero_mul, round_zero, round_zero]
    exact sameValue_finite (by simp)
  · have hck : c * pow10 k ≠ 0 := Nat.mul_ne_zero hc (pow10_pos k).ne'
    rw [round_of_ne_zero hc, round_of_ne_zero hck]
    rcases rounded_shift hc digits k e with ⟨j, hr, hrk⟩ | hr
    · simp only [hr, hrk, adjusted_shift hc]
      split
      · rfl
      · apply sameValue_finite
        rw [signed_mul, scaled_shift]
    · rw [hr]
      rfl

/-- Rounding depends on the exact number alone. -/
theorem round_sameValue (digits : Nat) {s₁ s₂ : Bool} {c₁ c₂ : Nat} {e₁ e₂ : Int}
    (h : scaled (signed s₁ c₁) e₁ = scaled (signed s₂ c₂) e₂) :
    SameValue (round digits s₁ c₁ e₁) (round digits s₂ c₂ e₂) := by
  have key {s₁ s₂ : Bool} {c₁ c₂ : Nat} {e₁ e₂ : Int}
      (h : scaled (signed s₁ c₁) e₁ = scaled (signed s₂ c₂) e₂) (hle : e₂ ≤ e₁) :
      SameValue (round digits s₁ c₁ e₁) (round digits s₂ c₂ e₂) := by
    rw [scaled_lower _ hle, scaled_inj, ← signed_mul] at h
    have hc : c₁ * pow10 (e₁ - e₂).toNat = c₂ := by
      rw [← natAbs_signed s₁ (c₁ * _), h, natAbs_signed]
    have hshift := round_shift digits s₁ c₁ e₁ (e₁ - e₂).toNat
    rw [hc, show e₁ - ((e₁ - e₂).toNat : Int) = e₂ by omega] at hshift
    by_cases hz : c₂ = 0
    · subst hz
      refine hshift.trans ?_
      rw [round_zero, round_zero]
      exact sameValue_finite (by simp)
    · rw [hc] at h
      rw [sign_of_signed h hz] at hshift ⊢
      exact hshift
  rcases le_total e₂ e₁ with hle | hle
  · exact key h hle
  · exact (key h.symm hle).symm

end Metrology.Decimal
