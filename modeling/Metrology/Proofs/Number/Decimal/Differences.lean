import Metrology.Number.Decimal.Power
import Metrology.Proofs.Number.Decimal.Operations

namespace Metrology

theorem scaled_le_iff {m n e : Int} : scaled m e ≤ scaled n e ↔ m ≤ n := by
  rw [← not_lt, scaled_lt_iff, not_lt]

namespace Decimal

variable {digits c c' : Nat} {e e' : Int}

theorem adjusted_le_of_scaled (hc : c ≠ 0) (hle : scaled c e ≤ scaled c' e') :
    adjusted c e ≤ adjusted c' e' := by
  by_contra h
  have hc' : c' ≠ 0 := by
    rintro rfl
    have hpos : 0 < scaled c e := scaled_pos_iff.mpr (by omega)
    rw [Nat.cast_zero, scaled_zero] at hle
    exact absurd hle (not_le.mpr hpos)
  exact absurd hle (not_le.mpr (scaled_lt_of_adjusted hc' hc (not_le.mp h)))

/-- With the leading digit at the same place, what is cut off a number leaves no more than a larger
number that can be held. -/
theorem dropDigits_lt_of_held (h : Held digits c' e') {target : Int}
    (hlead : adjusted c' e' = target + digits - 1) (hle : scaled c e ≤ scaled c' e')
    (htarget : e ≤ target) : roundHalfEven c (pow10 (target - e).toNat) < pow10 digits := by
  have hlength := h.length
  have hplace : target ≤ e' := by
    unfold adjusted at hlead
    omega
  rw [scaled_lower c' hplace, scaled_lower (_ * _) htarget, scaled_le_iff] at hle
  have hround := roundHalfEven_le (n := c) (m := c' * pow10 (e' - target).toNat)
    (d := pow10 (target - e).toNat) (by exact_mod_cast hle)
  have hlt := lt_pow10_digitCount (c' * pow10 (e' - target).toNat)
  by_cases hc : c' = 0
  · subst hc
    rw [Nat.zero_mul] at hround
    have hpos := pow10_pos digits
    omega
  · rw [digitCount_mul_pow10 hc] at hlt
    have hpow : digitCount c' + (e' - target).toNat = digits := by
      unfold adjusted at hlead
      omega
    rw [hpow] at hlt
    omega

/-- No number is too large that is no larger than one that can be held. -/
theorem round_of_le (hd : 0 < digits) (h : Held digits c' e') (hle : scaled c e ≤ scaled c' e')
    (s : Bool) : ∃ d, round digits s c e = .ok d := by
  by_cases hc : c = 0
  · subst hc
    exact ⟨_, round_zero digits s e⟩
  have hlead := adjusted_le_of_scaled hc hle
  have hmost := h.most
  have hfits : ¬maxExponent < adjusted (rounded digits c e).1 (rounded digits c e).2 := by
    have hleast : leastExponent digits + digits ≤ maxExponent := by
      unfold leastExponent minExponent maxExponent
      omega
    have hplace : lastPlace digits c e = adjusted c e - digits + 1 ∨
        lastPlace digits c e = leastExponent digits := max_choice _ _
    unfold rounded
    by_cases hkept : lastPlace digits c e ≤ e
    · have hshort : ¬digits < digitCount c := by
        unfold lastPlace adjusted at hkept
        omega
      rw [quantize, if_pos hkept, trim, if_neg hshort]
      exact not_lt.mpr (hlead.trans hmost)
    · have hq := quantize_le (not_le.mp hkept)
      rw [quantize, if_neg hkept, dropDigits_eq] at hq ⊢
      dsimp only at hq ⊢
      unfold trim
      dsimp only
      split
      · next hlong =>
        -- Only the number that is all nines in front can come to have one digit more.
        have hgrown := le_antisymm hq ((lt_digitCount_iff hd).mp hlong)
        have hten := digitCount_pow10 (digits - 1)
        have hbelow : lastPlace digits c e + digits ≤ maxExponent := by
          rcases hplace with hp | hp
          · by_contra hover
            have hequal : adjusted c' e' = lastPlace digits c e + digits - 1 := by omega
            have hlt := dropDigits_lt_of_held h hequal hle (not_le.mp hkept).le
            omega
          · omega
        rw [hgrown, pow10_div_ten hd]
        unfold adjusted
        dsimp only
        omega
      · next hshort =>
        have hfront := hlead.trans hmost
        unfold adjusted at hfront hplace ⊢
        dsimp only
        omega
  rw [round_of_ne_zero hc, if_neg hfits]
  exact ⟨_, rfl⟩

/-- Rounding leaves something of a number whose last digit stands no lower than any can. -/
theorem rounded_ne_zero (hd : 0 < digits) (hc : c ≠ 0) (hleast : leastExponent digits ≤ e) :
    (rounded digits c e).1 ≠ 0 := by
  have htrim (q : Nat × Int) (hq : q.1 ≠ 0) : (trim digits q).1 ≠ 0 := by
    unfold trim
    split
    · next hlong =>
      have hlarge := (lt_digitCount_iff hd).mp hlong
      have hten : 10 ≤ pow10 digits := pow10_le (j := 1) hd
      dsimp only
      omega
    · exact hq
  apply htrim
  by_cases hkept : lastPlace digits c e ≤ e
  · rw [quantize, if_pos hkept]
    exact hc
  · have hplace : lastPlace digits c e = e + digitCount c - digits := by
      unfold lastPlace adjusted at hkept ⊢
      omega
    rw [quantize, if_neg hkept, dropDigits_eq, hplace]
    have hle := pow10_le_of_digitCount hc
    have hcount : digitCount c - 1 = digits - 1 + (e + digitCount c - digits - e).toNat := by
      omega
    rw [hcount, pow10_add] at hle
    have hround := le_roundHalfEven (pow10_pos _) hle
    have hpos := pow10_pos (digits - 1)
    dsimp only
    omega

variable {a b : Decimal} {p q : Rat}

theorem abs_scaled (s : Bool) (c : Nat) (e : Int) : |scaled (signed s c) e| = scaled c e := by
  have hpos : 0 ≤ scaled c e := not_lt.mp (mt scaled_neg_iff.mp (by omega))
  cases s with
  | true => simp [signed, scaled_neg, abs_of_nonneg hpos]
  | false => simp [signed, abs_of_nonneg hpos]

/-- Taking the sign off rounds like every operation. -/
theorem abs_rounds (hp : a.value? = some p) : Rounds |p| a.abs := by
  cases a with
  | finite s c e =>
    obtain rfl := Option.some.inj hp
    have habs : (finite s c e).abs = round precision false c e := by
      cases s <;> rfl
    rw [habs, abs_scaled]
    exact rounds_round rfl
  | infinite s => cases hp
  | nan s g p => cases hp

/-- Rounded at the least exponent, a number is zero only if it was. -/
theorem round_eq_zero_iff {r : Int} {s t : Bool}
    (h : round precision s r.natAbs (leastExponent precision) = .ok (finite t c e)) :
    c = 0 ↔ r = 0 := by
  by_cases hr : r = 0
  · subst hr
    rw [Int.natAbs_zero, round_zero] at h
    injection h with h
    injection h with _ hc
    exact iff_of_true hc.symm rfl
  · have habs : r.natAbs ≠ 0 := Int.natAbs_ne_zero.mpr hr
    have hne : (rounded precision r.natAbs (leastExponent precision)).1 ≠ 0 :=
      rounded_ne_zero (by decide) habs le_rfl
    rw [round_of_ne_zero habs] at h
    split at h
    · cases h
    · injection h with h
      injection h with _ hc
      exact iff_of_false (hc ▸ hne) hr

/-- Over the least exponent a normal decimal is an integer. -/
theorem Normal.exists_integer (ha : a.Normal) (hp : a.value? = some p) :
    ∃ m, p = scaled m (leastExponent precision) := by
  obtain ⟨s, c, e, hheld, hvalue⟩ := ha.held hp
  exact ⟨_, hvalue.symm.trans (scaled_lower _ hheld.least)⟩

/-- A difference that is no larger than a normal decimal is not too large when it is rounded. -/
theorem Normal.round_of_abs_le (ha : a.Normal) (hp : a.value? = some p) {r : Int}
    (hr : |scaled r (leastExponent precision)| ≤ |p|) (s : Bool) :
    ∃ d, round precision s r.natAbs (leastExponent precision) = .ok d := by
  obtain ⟨t, c, e, hheld, hvalue⟩ := ha.held hp
  rw [← hvalue, abs_scaled, ← signed_natAbs r false, abs_scaled] at hr
  exact round_of_le (by decide) hheld hr s

/-- The difference of normal decimals that are not negative can be held, and is zero only of equal
ones. -/
theorem Normal.difference (ha : a.Normal) (hb : b.Normal) (hp : a.value? = some p)
    (hq : b.value? = some q) (hp0 : 0 ≤ p) (hq0 : 0 ≤ q) :
    ∃ s c e, SameValue (a.sub b) (.ok (finite s c e)) ∧ Held precision c e ∧ (c = 0 ↔ p = q) := by
  obtain ⟨m, hm⟩ := ha.exists_integer hp
  obtain ⟨n, hn⟩ := hb.exists_integer hq
  have hdiff : scaled (m - n) (leastExponent precision) = p - q := by
    rw [hm, hn, sub_eq_add_neg m, scaled_add, scaled_neg, ← sub_eq_add_neg]
  have hround : ∃ d, round precision (if m - n = 0 then false else decide (m - n < 0))
      (m - n).natAbs (leastExponent precision) = .ok d := by
    rcases le_total p q with h | h
    · apply hb.round_of_abs_le hq
      rw [hdiff, abs_of_nonpos (by linarith), abs_of_nonneg hq0]
      linarith
    · apply ha.round_of_abs_le hp
      rw [hdiff, abs_of_nonneg (by linarith), abs_of_nonneg hp0]
      linarith
  obtain ⟨d, hd⟩ := hround
  obtain ⟨c, e, rfl, hheld⟩ := held_of_round (by decide) hd
  have hsub := (sub_rounds hp hq).unique
    (rounds_round ((congrArg (scaled · _) (signed_natAbs (m - n) false)).trans hdiff))
  rw [hd] at hsub
  refine ⟨_, c, e, hsub, hheld, (round_eq_zero_iff hd).trans ?_⟩
  rw [hm, hn, scaled_inj, sub_eq_zero]

/-- How far two such decimals are apart can be told. -/
theorem Normal.distance (ha : a.Normal) (hb : b.Normal) (hp : a.value? = some p)
    (hq : b.value? = some q) (hp0 : 0 ≤ p) (hq0 : 0 ≤ q) :
    ∃ d e x, a.sub b = .ok d ∧ d.abs = .ok e ∧ e.value? = some x ∧ 0 ≤ x ∧ (x = 0 ↔ p = q) := by
  obtain ⟨s, c, k, hsub, hheld, hzero⟩ := ha.difference hb hp hq hp0 hq0
  obtain ⟨d, hd, hvalue⟩ := hsub.ok
  have habs := (abs_rounds hvalue).unique
    (rounds_round (s := false) (c := c) (e := k) (abs_scaled s c k).symm)
  rw [round_of_held hheld] at habs
  obtain ⟨e, he, hev⟩ := habs.ok
  refine ⟨d, e, scaled c k, hd, he, hev, ?_, ?_⟩
  · rw [← abs_scaled s]
    exact abs_nonneg _
  · rw [← hzero, ← scaled_zero k, scaled_inj]
    omega

/-- One, with any number of zeros behind the point. -/
theorem scaled_pow10 (s : Bool) (k : Nat) :
    scaled (signed s (pow10 k)) (-k) = scaled (signed s 1) 0 := by
  have hshift := scaled_shift (signed s 1) 0 k
  rwa [← signed_mul, one_mul, zero_sub] at hshift

/-- The first power of a normal decimal other than zero is of its value. -/
theorem Normal.pow_one (ha : a.Normal) (hp : a.value? = some p) (h0 : p ≠ 0) :
    ∃ d, a.pow 1 = .ok d ∧ d.value? = some p := by
  cases a with
  | finite s c e =>
    have hc : c ≠ 0 := by
      rintro rfl
      exact h0 (by simpa [value?] using hp.symm)
    have hpow : (finite s c e).pow 1 = powerFinite c e 1 s := by
      unfold pow
      dsimp only
      rw [if_neg hc, if_neg (by decide)]
      cases s <;> rfl
    rw [hpow]
    cases hunit : isUnit c e with
    | true =>
      have hplaces : powerFinite c e 1 s =
          .ok (finite s (pow10 (min ((1 : Int).toNat * (-e).toNat) (precision - 1)))
            (-(min ((1 : Int).toNat * (-e).toNat) (precision - 1) : Nat))) := by
        unfold powerFinite
        rw [hunit]
        rfl
      unfold isUnit at hunit
      simp only [Bool.and_eq_true, decide_eq_true_eq, beq_iff_eq] at hunit
      obtain ⟨⟨hle, -⟩, rfl⟩ := hunit
      have hone := scaled_pow10 s (-e).toNat
      rw [show -((-e).toNat : Int) = e by omega] at hone
      refine ⟨_, hplaces, ?_⟩
      rw [value?, scaled_pow10, ← hone]
      exact hp
    | false =>
      have hround : powerFinite c e 1 s = round precision s c e := by
        unfold powerFinite
        rw [hunit]
        rfl
      rw [hround]
      exact ha.kept hp (rounds_round (Option.some.inj hp))
  | infinite s => exact ha.elim
  | nan s g p => exact ha.elim

end Decimal

end Metrology
