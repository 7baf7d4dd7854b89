import Mathlib.Logic.Basic
import Metrology.Number.Kind
import Metrology.Proofs.Number.Ratio
import Metrology.Proofs.Traversal

namespace Metrology

namespace Decimal

/-- Either a finite number, or too large a one. -/
def Within (x : Except Failure Decimal) : Prop :=
  (∃ s c e, x = .ok (.finite s c e)) ∨ x = .error .decimalOverflow

theorem round_within (digits : Nat) (s : Bool) (c : Nat) (e : Int) :
    Within (round digits s c e) := by
  unfold round
  split
  · exact .inl ⟨_, _, _, rfl⟩
  · dsimp only
    split
    · exact .inr rfl
    · exact .inl ⟨_, _, _, rfl⟩

/-- The same of the steps on the way to a power. -/
def StepWithin {α : Type} (x : Except Failure α) : Prop :=
  (∃ a, x = .ok a) ∨ x = .error .decimalOverflow

theorem StepWithin.bind {α β : Type} {x : Except Failure α} (hx : StepWithin x)
    {f : α → Except Failure β} (hf : ∀ a, StepWithin (f a)) : StepWithin (x >>= f) := by
  rcases hx with ⟨a, rfl⟩ | rfl
  · exact hf a
  · exact .inr rfl

theorem product_within (digits : Nat) (a b : Nat × Int) : StepWithin (product digits a b) := by
  unfold product
  rcases round_within digits false (a.1 * b.1) (a.2 + b.2) with ⟨s, c, e, h⟩ | h
  · rw [h]
    exact .inl ⟨_, rfl⟩
  · rw [h]
    exact .inr rfl

theorem powerOfBits_within (digits : Nat) (base acc : Nat × Int) (bits : List Bool) :
    StepWithin (powerOfBits digits base acc bits) := by
  induction bits generalizing acc with
  | nil => exact .inl ⟨acc, rfl⟩
  | cons bit rest ih =>
    refine (product_within digits acc acc).bind fun square => ?_
    cases bit with
    | true => exact (product_within digits square base).bind fun next => ih next
    | false => exact ih square

theorem powerOfLowBits_within (digits : Nat) (acc base : Nat × Int) (bits : List Bool) :
    StepWithin (powerOfLowBits digits acc base bits) := by
  induction bits generalizing acc base with
  | nil => exact .inl ⟨acc, rfl⟩
  | cons bit rest ih =>
    have hrest (next : Nat × Int) : StepWithin (if rest.isEmpty then pure next else
        product digits base base >>= fun square => powerOfLowBits digits next square rest) := by
      cases rest with
      | nil => exact .inl ⟨next, rfl⟩
      | cons b more => exact (product_within digits base base).bind fun square => ih next square
    cases bit with
    | true => exact (product_within digits acc base).bind hrest
    | false => exact hrest acc

theorem reciprocal_within (digits : Nat) {c : Nat} (hc : c ≠ 0) (e : Int) :
    StepWithin (reciprocal digits c e) := by
  unfold reciprocal divFinite
  rw [if_neg hc, if_neg (by decide)]
  dsimp only
  rcases round_within digits (false ^^ false) (quotient digits 1 0 c e).1
    (quotient digits 1 0 c e).2 with ⟨s, c', e', h⟩ | h
  · rw [h]
    exact .inl ⟨_, rfl⟩
  · rw [h]
    exact .inr rfl

theorem powerFinite_within {c : Nat} (hc : c ≠ 0) (e k : Int) (negative : Bool) :
    Within (powerFinite c e k negative) := by
  have hround {x : Except Failure (Nat × Int)} (hx : StepWithin x) :
      Within (x >>= fun result => round precision negative result.1 result.2) := by
    rcases hx with ⟨a, rfl⟩ | rfl
    · exact round_within precision negative a.1 a.2
    · exact .inr rfl
  have hend (digits : Nat) (base : Nat × Int) : Within
      (if k.natAbs < pow2 64 then
        powerOfBits digits base base (bits k.natAbs).tail >>= fun result =>
          round precision negative result.1 result.2
      else
        powerOfLowBits digits (1, 0) base (bits k.natAbs).reverse >>= fun result =>
          round precision negative result.1 result.2) := by
    split
    · exact hround (powerOfBits_within digits base base _)
    · exact hround (powerOfLowBits_within digits (1, 0) base _)
  unfold powerFinite
  split
  · exact .inl ⟨_, _, _, rfl⟩
  · by_cases hk : k < 0
    · rcases reciprocal_within (precision + digitCount k.natAbs + 3) hc e with ⟨base, hb⟩ | hb
      · simp only [if_pos hk, hb]
        exact hend _ base
      · simp only [if_pos hk, hb]
        exact .inr rfl
    · simp only [if_neg hk]
      exact hend _ (c, e)

theorem pow_within (s : Bool) {c : Nat} (hc : c ≠ 0) (e k : Int) :
    Within ((finite s c e).pow k) := by
  unfold pow
  dsimp only
  rw [if_neg hc]
  split
  · exact .inl ⟨_, _, _, rfl⟩
  · exact powerFinite_within hc e k _

theorem mul_within (s₁ s₂ : Bool) (c₁ c₂ : Nat) (e₁ e₂ : Int) :
    Within ((finite s₁ c₁ e₁).mul (finite s₂ c₂ e₂)) :=
  round_within precision (s₁ ^^ s₂) (c₁ * c₂) (e₁ + e₂)

end Decimal

namespace Number

theorem floatQuotient_outcome (a b : Int) :
    (∃ x, floatQuotient a b = .ok x) ∨ floatQuotient a b = .error .overflow := by
  unfold floatQuotient
  split
  · exact .inl ⟨_, rfl⟩
  · exact .inr rfl

theorem powFloat_outcome {x : Float} {m : Nat} {e : Int} (hx : Binary64.read x = .finite false m e)
    (hm : m ≠ 0) (y : Float) :
    (∃ z, powFloat x y = .ok z) ∨ powFloat x y = .error .overflow := by
  unfold powFloat
  split
  · exact .inl ⟨_, rfl⟩
  · rw [hx]
    cases Binary64.read y with
    | nan => exact .inl ⟨_, rfl⟩
    | infinite negative =>
      dsimp only
      split <;> exact .inl ⟨_, rfl⟩
    | finite negative m' e' =>
      dsimp only
      rw [if_neg hm]
      split
      · exact .inr rfl
      · exact .inl ⟨_, rfl⟩

end Number

namespace NumberKind

/-- Whether a number is of a kind, and a finite one if it is a decimal. -/
def Computes : NumberKind → Number → Prop
  | float, .float _ => True
  | ratio, .ratio _ => True
  | decimal, .decimal (.finite ..) => True
  | _, _ => False

/-- Whether a number is finite, of a kind, and not zero. Floats and fractions are positive. -/
def isFactor : NumberKind → Number → Bool
  | float, .float x =>
    match Binary64.read x with
    | .finite negative m _ => !negative && m ≠ 0
    | _ => false
  | ratio, .ratio q => 0 < q
  | decimal, .decimal (.finite _ c _) => c ≠ 0
  | _, _ => false

/-- The failure of a result that is too large, in the kinds that have one. -/
def excess? : NumberKind → Option Failure
  | float => some .overflow
  | decimal => some .decimalOverflow
  | _ => none

/-- A result of a kind, or the failure that it is too large. -/
def Outcome (kind : NumberKind) (x : Except Failure Number) : Prop :=
  (∃ n, x = .ok n ∧ kind.Computes n) ∨ ∃ e, kind.excess? = some e ∧ x = .error e

theorem outcome_float {x : Except Failure Float}
    (h : (∃ y, x = .ok y) ∨ x = .error .overflow) : float.Outcome (x.map .float) := by
  rcases h with ⟨y, rfl⟩ | rfl
  · exact .inl ⟨.float y, rfl, trivial⟩
  · exact .inr ⟨.overflow, rfl, rfl⟩

theorem outcome_decimal {x : Except Failure Decimal} (h : Decimal.Within x) :
    decimal.Outcome (x.map .decimal) := by
  rcases h with ⟨s, c, e, rfl⟩ | rfl
  · exact .inl ⟨.decimal (.finite s c e), rfl, trivial⟩
  · exact .inr ⟨.decimalOverflow, rfl, rfl⟩

theorem pow_outcome {kind : NumberKind} {n : Number} (h : kind.isFactor n = true) (k : Int) :
    kind.Outcome (n.pow k) := by
  unfold isFactor at h
  split at h
  · rename_i x
    split at h
    · rename_i negative m e hx
      simp only [Bool.and_eq_true, Bool.not_eq_true', decide_eq_true_eq] at h
      obtain ⟨rfl, hm⟩ := h
      rcases Number.floatQuotient_outcome k 1 with ⟨y, hy⟩ | hy
      · have hp : (Number.float x).pow k = (Number.powFloat x y).map .float := by
          rw [Number.pow, Number.floatOfInt, hy]
          cases hz : Number.powFloat x y <;> simp only [bind, Except.bind, hz] <;> rfl
        rw [hp]
        exact outcome_float (Number.powFloat_outcome hx hm y)
      · refine .inr ⟨.overflow, rfl, ?_⟩
        rw [Number.pow, Number.floatOfInt, hy]
        rfl
    · contradiction
  · rename_i q
    have hq : q ≠ 0 := ne_of_gt (by simpa using h)
    exact .inl ⟨_, Number.pow_ratio_of_ne_zero hq k, trivial⟩
  · rename_i s c e
    have hc : c ≠ 0 := by simpa using h
    exact outcome_decimal (Decimal.pow_within s hc e k)
  · contradiction

theorem computes_float {n : Number} (h : float.Computes n) : ∃ x, n = .float x := by
  cases n with
  | float x => exact ⟨x, rfl⟩
  | _ => cases h

theorem computes_ratio {n : Number} (h : ratio.Computes n) : ∃ q, n = .ratio q := by
  cases n with
  | ratio q => exact ⟨q, rfl⟩
  | _ => cases h

theorem computes_decimal {n : Number} (h : decimal.Computes n) :
    ∃ s c e, n = .decimal (.finite s c e) := by
  cases n with
  | decimal d =>
    cases d with
    | finite s c e => exact ⟨s, c, e, rfl⟩
    | _ => cases h
  | _ => cases h

theorem mul_outcome {kind : NumberKind} {a b : Number} (ha : kind.Computes a)
    (hb : kind.Computes b) : kind.Outcome (a.mul b) := by
  cases kind with
  | float =>
    obtain ⟨x, rfl⟩ := computes_float ha
    obtain ⟨y, rfl⟩ := computes_float hb
    exact .inl ⟨_, rfl, trivial⟩
  | ratio =>
    obtain ⟨p, rfl⟩ := computes_ratio ha
    obtain ⟨q, rfl⟩ := computes_ratio hb
    exact .inl ⟨_, rfl, trivial⟩
  | decimal =>
    obtain ⟨s₁, c₁, e₁, rfl⟩ := computes_decimal ha
    obtain ⟨s₂, c₂, e₂, rfl⟩ := computes_decimal hb
    exact outcome_decimal (Decimal.mul_within s₁ s₂ c₁ c₂ e₁ e₂)
  | int => cases a <;> cases ha

theorem excess_not_parse {kind : NumberKind} {e : Failure} (h : kind.excess? = some e) :
    e.isParse = false := by
  cases kind with
  | float =>
    obtain rfl := Option.some.inj h
    rfl
  | decimal =>
    obtain rfl := Option.some.inj h
    rfl
  | ratio => contradiction
  | int => contradiction

theorem isFactor_ratio {n : Number} (h : ratio.isFactor n = true) : ∃ q, n = .ratio q ∧ 0 < q := by
  cases n with
  | ratio q => exact ⟨q, rfl, by simpa [isFactor] using h⟩
  | _ => cases h

theorem isFactor_one {kind : NumberKind} (h : kind ≠ .int) : kind.isFactor kind.one = true := by
  cases kind with
  | float => decide +kernel
  | ratio => decide +kernel
  | decimal => decide
  | int => contradiction

theorem computes_one {kind : NumberKind} (h : kind ≠ .int) : kind.Computes kind.one := by
  cases kind with
  | int => contradiction
  | _ => trivial

end NumberKind

end Metrology
