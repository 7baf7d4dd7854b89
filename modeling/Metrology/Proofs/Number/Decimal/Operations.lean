import Metrology.Number.Decimal.Arithmetic
import Metrology.Proofs.Number.Decimal.Rounding
import Metrology.Proofs.Number.Excess

namespace Metrology.Decimal

/-- Numbers between two neighbouring multiples of five units are rounded alike, where more digits
than are kept stand in front of the units. -/
theorem round_between {j p r₁ r₂ : Nat} (hlong : pow10 (precision + p) ≤ j * (5 * pow10 p))
    (h₁ : 0 < r₁) (hr₁ : r₁ < 5 * pow10 p) (h₂ : 0 < r₂) (hr₂ : r₂ < 5 * pow10 p) (s : Bool)
    (e : Int) :
    round precision s (j * (5 * pow10 p) + r₁) e =
      round precision s (j * (5 * pow10 p) + r₂) e := by
  have hunit := pow10_pos p
  have hhalf : 0 < 5 * pow10 p := by omega
  have hplaces : 0 < precision + p := by
    unfold precision
    omega
  have htwice : 5 * pow10 p * 2 = pow10 (p + 1) := by
    rw [pow10_succ]
    ring
  have hdiv (r : Nat) (hr : r < 5 * pow10 p) : (j * (5 * pow10 p) + r) / (5 * pow10 p) = j := by
    rw [Nat.add_comm, Nat.add_mul_div_right _ _ hhalf, Nat.div_eq_of_lt hr, Nat.zero_add]
  have hmod (r : Nat) (hr : r < 5 * pow10 p) : (j * (5 * pow10 p) + r) % (5 * pow10 p) = r := by
    rw [Nat.add_comm, Nat.add_mul_mod_self_right, Nat.mod_eq_of_lt hr]
  -- Both have the same digits in front, and so they are equally long and cut at the same place.
  have hlead (r : Nat) (hr : r < 5 * pow10 p) :
      digitCount (j * (5 * pow10 p) + r) = digitCount (j / 2) + (p + 1) := by
    have hle : pow10 (p + 1) ≤ j * (5 * pow10 p) + r :=
      le_trans (pow10_le (by unfold precision; omega)) (hlong.trans (Nat.le_add_right _ _))
    rw [digitCount_div_pow10 hle, ← htwice, ← Nat.div_div_eq_div_mul, hdiv r hr]
  have hcount : precision < digitCount (j / 2) + 1 := by
    have hwhole := (lt_digitCount_iff (n := j * (5 * pow10 p) + 0) hplaces).mpr hlong
    rw [hlead 0 hhalf] at hwhole
    omega
  have hplace (r : Nat) (hr : r < 5 * pow10 p) : lastPlace precision (j * (5 * pow10 p) + r) e =
      max (e + digitCount (j / 2) + (p + 1) - precision) (leastExponent precision) := by
    rw [lastPlace, adjusted, hlead r hr]
    push_cast
    congr 1
    omega
  have hrounded : rounded precision (j * (5 * pow10 p) + r₁) e =
      rounded precision (j * (5 * pow10 p) + r₂) e := by
    unfold rounded
    rw [hplace r₁ hr₁, hplace r₂ hr₂]
    generalize hT : max (e + digitCount (j / 2) + (p + 1) - precision) (leastExponent precision) = T
    obtain ⟨k, hk⟩ : ∃ k, (T - e).toNat = p + 1 + k := ⟨(T - e).toNat - (p + 1), by omega⟩
    have hcut : pow10 (p + 1 + k) = 5 * pow10 p * (2 * pow10 k) := by
      rw [pow10_add, ← htwice]
      ring
    have hlow : ¬T ≤ e := by omega
    unfold quantize
    rw [if_neg hlow, if_neg hlow, dropDigits_eq, dropDigits_eq, hk, hcut]
    have hcongr : roundHalfEven (j * (5 * pow10 p) + r₁) (5 * pow10 p * (2 * pow10 k)) =
        roundHalfEven (j * (5 * pow10 p) + r₂) (5 * pow10 p * (2 * pow10 k)) := by
      apply roundHalfEven_congr _ _ _ hhalf
      · rw [hdiv r₁ hr₁, hdiv r₂ hr₂]
      · rw [hmod r₁ hr₁]
        omega
      · rw [hmod r₂ hr₂]
        omega
    rw [hcongr]
  rw [round_of_ne_zero (by omega), round_of_ne_zero (by omega), hrounded]

/-- Far below the digits that are kept of a number, all that is added to it comes to the same, and
so does all that is taken from it. -/
theorem round_beside {m p δ₁ δ₂ : Nat} (hlong : pow10 precision ≤ m) (h₁ : 0 < δ₁)
    (hδ₁ : δ₁ ≤ pow10 p) (h₂ : 0 < δ₂) (hδ₂ : δ₂ ≤ pow10 p) (more s : Bool) (e : Int) :
    round precision s (if more then m * (10 * pow10 p) + δ₁ else m * (10 * pow10 p) - δ₁) e =
      round precision s (if more then m * (10 * pow10 p) + δ₂ else m * (10 * pow10 p) - δ₂) e := by
  have hunit := pow10_pos p
  have hle := Nat.mul_le_mul_right (pow10 p) hlong
  have hpos : 0 < m := (pow10_pos precision).trans_le hlong
  have hone := Nat.mul_le_mul_right (pow10 p) hpos
  cases more with
  | true =>
    have hm : m * (10 * pow10 p) = 2 * m * (5 * pow10 p) := by ring
    have hten : m * (10 * pow10 p) = 10 * (m * pow10 p) := by ring
    simp only [if_true, hm]
    apply round_between _ h₁ (by omega) h₂ (by omega)
    rw [pow10_add, ← hm]
    omega
  | false =>
    have hsplit : (2 * m - 1) * (5 * pow10 p) + 5 * pow10 p = m * (10 * pow10 p) := by
      rw [← Nat.succ_mul, show Nat.succ (2 * m - 1) = 2 * m by omega]
      ring
    have hten : m * (10 * pow10 p) = 10 * (m * pow10 p) := by ring
    have hm (δ : Nat) (hδ : δ ≤ pow10 p) :
        m * (10 * pow10 p) - δ = (2 * m - 1) * (5 * pow10 p) + (5 * pow10 p - δ) := by
      omega
    simp only [Bool.false_eq_true, if_false, hm δ₁ hδ₁, hm δ₂ hδ₂]
    apply round_between _ (by omega) (by omega) (by omega) (by omega)
    rw [pow10_add]
    omega

theorem signed_natAbs (n : Int) (s : Bool) :
    signed (if n = 0 then s else decide (n < 0)) n.natAbs = n := by
  unfold signed
  rcases lt_trichotomy n 0 with h | h | h
  · simp only [h.ne, h, if_false, decide_true, if_true]
    omega
  · simp [h]
  · simp only [h.ne', h.not_gt, if_false, decide_false, Bool.false_eq_true]
    omega

theorem signed_add {c d : Nat} (h : d ≤ c) (s t : Bool) :
    signed s c + signed t d = signed s (if s == t then c + d else c - d) := by
  cases s <;> cases t <;> simp [signed] <;> omega

/-- What stands for the smaller summand either is that summand, or is one unit above it and below
all the digits that are kept of the larger one. -/
theorem nearby_cases (c₁ : Nat) {e₁ e₂ : Int} (c₂ : Nat) (he : e₂ ≤ e₁) :
    ((nearby c₁ e₁ c₂ e₂).2 ≤ e₁ ∧ ∀ s, scaled (signed s (nearby c₁ e₁ c₂ e₂).1)
        (nearby c₁ e₁ c₂ e₂).2 = scaled (signed s c₂) e₂) ∨
      ∃ p i : Nat, nearby c₁ e₁ c₂ e₂ = (1, e₂ + p) ∧ 0 < c₂ ∧ c₂ ≤ pow10 p ∧
        e₁ = e₂ + p + (i + 1) ∧ 29 ≤ i + digitCount c₁ := by
  unfold nearby
  dsimp only
  split
  · exact .inl ⟨he, fun _ => rfl⟩
  · split
    · next hc =>
      left
      exact ⟨by dsimp only; omega, fun _ => by simp [hc]⟩
    · split
      · next hfar =>
        right
        have hlt := lt_pow10_digitCount c₂
        have hpos := digitCount_pos c₂
        unfold adjusted precision at *
        refine ⟨(e₁ + min (-1) ((digitCount c₁ : Int) - 28 - 2) - e₂).toNat,
          (-1 - min (-1) ((digitCount c₁ : Int) - 28 - 2)).toNat, ?_, by omega, ?_, by omega,
          by omega⟩
        · congr 1
          omega
        · exact (hlt.trans_le (pow10_le (by omega))).le
      · exact .inl ⟨he, fun _ => rfl⟩

/-- Whether an outcome has the value of a number rounded. -/
def Rounds (q : Rat) (x : Except Failure Decimal) : Prop :=
  ∃ s c e, scaled (signed s c) e = q ∧ SameValue x (round precision s c e)

theorem Rounds.unique {q : Rat} {x y : Except Failure Decimal} (hx : Rounds q x)
    (hy : Rounds q y) : SameValue x y := by
  obtain ⟨s, c, e, hq, hx⟩ := hx
  obtain ⟨t, d, f, hr, hy⟩ := hy
  exact (hx.trans (round_sameValue precision (hq.trans hr.symm))).trans hy.symm

theorem Rounds.within {q : Rat} {x : Except Failure Decimal} (h : Rounds q x) : Within x := by
  obtain ⟨s, c, e, -, hx⟩ := h
  rcases round_within precision s c e with ⟨t, d, f, hr⟩ | hr
  · rw [hr] at hx
    obtain ⟨b, rfl, hb⟩ := hx.ok
    cases b with
    | finite t d f => exact .inl ⟨t, d, f, rfl⟩
    | infinite t => cases hb
    | nan t g p => cases hb
  · rw [hr] at hx
    exact .inr hx.error

theorem rounds_round {q : Rat} {s : Bool} {c : Nat} {e : Int} (h : scaled (signed s c) e = q) :
    Rounds q (round precision s c e) :=
  ⟨s, c, e, h, rfl⟩

theorem addAligned_rounds {e₁ e₂ : Int} (he : e₂ ≤ e₁) (s₁ s₂ : Bool) (c₁ c₂ : Nat) :
    Rounds (scaled (signed s₁ c₁) e₁ + scaled (signed s₂ c₂) e₂)
      (addAligned s₁ c₁ e₁ s₂ c₂ e₂) := by
  unfold addAligned
  split
  · next hc =>
    apply rounds_round
    rw [hc]
    by_cases hz : c₂ = 0 <;> simp [hz]
  · next hc =>
    rcases nearby_cases c₁ c₂ he with ⟨hle, hval⟩ | ⟨p, i, hlow, hpos, hlt, hi, hlong⟩
    · apply rounds_round
      rw [signed_natAbs, ← hval s₂, scaled_lower _ hle, scaled_add]
    · rw [hlow]
      -- A unit and the summand itself, in the place of the summand, add to the same when rounded.
      have hlead : signed s₁ c₁ * pow10 (e₁ - (e₂ + p)).toNat * pow10 p =
          signed s₁ (c₁ * pow10 i * (10 * pow10 p)) := by
        rw [show (e₁ - (e₂ + p)).toNat = i + 1 by omega, pow10_succ, signed_mul, signed_mul]
        push_cast
        ring
      have hlarge : pow10 precision ≤ c₁ * pow10 i := by
        rw [← lt_digitCount_iff (by decide), digitCount_mul_pow10 hc]
        unfold precision
        omega
      have hwhole : pow10 p ≤ c₁ * pow10 i * (10 * pow10 p) := by
        have hunit := pow10_pos precision
        calc pow10 p ≤ 1 * (10 * pow10 p) := by omega
          _ ≤ c₁ * pow10 i * (10 * pow10 p) := Nat.mul_le_mul_right _ (by omega)
      refine ⟨s₁, if s₁ == s₂ then c₁ * pow10 i * (10 * pow10 p) + c₂
        else c₁ * pow10 i * (10 * pow10 p) - c₂, e₂, ?_, ?_⟩
      · have hplace : e₂ + (p : Int) ≤ e₁ := by omega
        rw [← signed_add (hlt.trans hwhole), scaled_add, ← hlead,
          scaled_lower (signed s₁ c₁) hplace, ← scaled_shift (_ * _) (e₂ + p) p,
          add_sub_cancel_right]
      · rw [← round_beside hlarge (pow10_pos p) le_rfl hpos hlt]
        apply round_sameValue
        rw [signed_natAbs, ← signed_add hwhole, ← hlead, ← scaled_shift _ (e₂ + p) p,
          add_sub_cancel_right, add_mul, ← signed_mul s₂ 1, one_mul]

theorem add_rounds {a b : Decimal} {p q : Rat} (ha : a.value? = some p) (hb : b.value? = some q) :
    Rounds (p + q) (a.add b) := by
  cases a <;> cases b <;> try contradiction
  next s₁ c₁ e₁ s₂ c₂ e₂ =>
    obtain rfl := Option.some.inj ha
    obtain rfl := Option.some.inj hb
    change Rounds _ (if e₂ ≤ e₁ then addAligned s₁ c₁ e₁ s₂ c₂ e₂ else addAligned s₂ c₂ e₂ s₁ c₁ e₁)
    split
    · next he => exact addAligned_rounds he s₁ s₂ c₁ c₂
    · next he =>
      rw [add_comm]
      exact addAligned_rounds (not_le.mp he).le s₂ s₁ c₂ c₁

theorem value?_flip {a : Decimal} {q : Rat} (h : a.value? = some q) :
    a.flip.value? = some (-q) := by
  cases a with
  | finite s c e =>
    obtain rfl := Option.some.inj h
    rw [flip, value?, signed_flip, scaled_neg]
  | infinite s => cases h
  | nan s g p => cases h

theorem sub_rounds {a b : Decimal} {p q : Rat} (ha : a.value? = some p) (hb : b.value? = some q) :
    Rounds (p - q) (a.sub b) := by
  have hsub : a.sub b = a.add b.flip := by
    cases a <;> cases b <;> first | contradiction | rfl
  rw [hsub, sub_eq_add_neg]
  exact add_rounds ha (value?_flip hb)

theorem mul_rounds {a b : Decimal} {p q : Rat} (ha : a.value? = some p) (hb : b.value? = some q) :
    Rounds (p * q) (a.mul b) := by
  cases a <;> cases b <;> try contradiction
  next s₁ c₁ e₁ s₂ c₂ e₂ =>
    obtain rfl := Option.some.inj ha
    obtain rfl := Option.some.inj hb
    apply rounds_round
    rw [← scaled_mul]
    cases s₁ <;> cases s₂ <;> simp [signed]

/-- Whether a decimal has no more digits than are kept, zeros behind it not counted, and lies in the
range of normal numbers. -/
def Normal : Decimal → Prop
  | finite _ c e => (∃ m k, c = m * pow10 k ∧ digitCount m ≤ precision) ∧
      (c = 0 ∨ minExponent ≤ adjusted c e ∧ adjusted c e ≤ maxExponent)
  | _ => False

theorem Normal.exists_value {a : Decimal} (ha : a.Normal) : ∃ q, a.value? = some q := by
  cases a with
  | finite s c e => exact ⟨_, rfl⟩
  | infinite s => exact ha.elim
  | nan s g p => exact ha.elim

theorem held_zero : Held precision 0 0 :=
  ⟨by decide, by decide, by decide⟩

/-- A normal decimal is of the value of one that can be held. -/
theorem Normal.held {a : Decimal} (ha : a.Normal) {p : Rat}
    (hp : a.value? = some p) :
    ∃ s c e, Held precision c e ∧ scaled (signed s c) e = p := by
  cases a with
  | finite s c e =>
    obtain rfl := Option.some.inj hp
    obtain ⟨⟨m, k, rfl, hm⟩, hrange⟩ := ha
    by_cases hc : m = 0
    · exact ⟨false, 0, 0, held_zero, by simp [hc]⟩
    · have hpos : m * pow10 k ≠ 0 := Nat.mul_ne_zero hc (pow10_pos k).ne'
      have hadjusted := adjusted_shift hc (e + k) k
      rw [add_sub_cancel_right] at hadjusted
      obtain ⟨hlow, hhigh⟩ := hrange.resolve_left hpos
      rw [hadjusted] at hlow hhigh
      refine ⟨s, m, e + k, ⟨hm, ?_, hhigh⟩, ?_⟩
      · unfold adjusted at hlow
        unfold leastExponent
        omega
      · have hvalue := scaled_shift (signed s m) (e + k) k
        rw [add_sub_cancel_right, ← signed_mul] at hvalue
        exact hvalue.symm
  | infinite s => exact ha.elim
  | nan s g p => exact ha.elim

/-- Rounding leaves the value of a normal number as it is. -/
theorem Normal.kept {d : Decimal} (hd : d.Normal) {q : Rat} (hq : d.value? = some q)
    {x : Except Failure Decimal} (hx : Rounds q x) : ∃ c, x = .ok c ∧ c.value? = some q := by
  obtain ⟨s, c, e, hheld, hvalue⟩ := hd.held hq
  have hsame := hx.unique (rounds_round hvalue)
  rw [round_of_held hheld] at hsame
  obtain ⟨b, hb, hbv⟩ := hsame.ok
  exact ⟨b, hb, hbv.trans (congrArg some hvalue)⟩

/-- Whether a decimal is as an operation leaves it, and no NaN. -/
inductive Settled : Decimal → Prop
  | finite (s : Bool) {c : Nat} {e : Int} (h : Held precision c e) : Settled (finite s c e)
  | infinite (s : Bool) : Settled (infinite s)

theorem mul_settled {a b d : Decimal} {q : Rat} (hb : b.value? = some q) (h : a.mul b = .ok d)
    (hn : ∀ s g p, d ≠ nan s g p) : d.Settled := by
  cases b with
  | finite t f g =>
    cases a with
    | finite s c e =>
      obtain ⟨c, e, rfl, hheld⟩ := held_of_round (by decide) h
      exact .finite _ hheld
    | infinite s =>
      change (if f = 0 then _ else _) = _ at h
      split at h
      · cases h
      · obtain rfl := Except.ok.inj h
        exact .infinite _
    | nan s signaling payload =>
      cases signaling with
      | true => cases h
      | false => exact absurd (Except.ok.inj h).symm (hn _ _ _)
  | infinite t => cases hb
  | nan t g p => cases hb

theorem Settled.mul_one {d : Decimal} (h : d.Settled) : d.mul (.finite false 1 0) = .ok d := by
  cases h with
  | finite s h =>
    change round precision (s ^^ false) (_ * 1) (_ + 0) = _
    rw [Bool.xor_false, Nat.mul_one, add_zero]
    exact round_of_held h s
  | infinite s =>
    change Except.ok (Decimal.infinite (s ^^ false)) = _
    rw [Bool.xor_false]

end Metrology.Decimal
