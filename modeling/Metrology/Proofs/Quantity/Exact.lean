import Mathlib.Tactic.FieldSimp
import Mathlib.Tactic.Ring
import Metrology.Calculator.Members
import Metrology.Calculator.Operators
import Metrology.Proofs.Dimension.Writable
import Metrology.Proofs.Number.Ratio

namespace Metrology

/-- A fraction in a unit whose factor is a positive fraction. -/
structure ExactQuantity where
  magnitude : Rat
  dimension : Dimension
  factor : Rat
  positive : 0 < factor

/-- A number to scale by. -/
inductive ExactScalar
  | int (n : Int)
  | ratio (q : Rat)

namespace ExactScalar

def number : ExactScalar → Number
  | int n => .int n
  | ratio q => .ratio q

def value : ExactScalar → Rat
  | int n => n
  | ratio q => q

theorem ratio_mul (q : Rat) (s : ExactScalar) :
    (Number.ratio q).mul s.number = .ok (.ratio (q * s.value)) := by
  cases s <;> rfl

theorem mul_ratio (s : ExactScalar) (q : Rat) :
    s.number.mul (.ratio q) = .ok (.ratio (s.value * q)) := by
  cases s <;> rfl

theorem ratio_div_zero (q : Rat) {s : ExactScalar} (hs : s.value = 0) :
    (Number.ratio q).div s.number = .error .divisionByZero := by
  cases s with
  | int n => exact if_pos hs
  | ratio r => exact if_pos hs

theorem ratio_div (q : Rat) {s : ExactScalar} (hs : s.value ≠ 0) :
    (Number.ratio q).div s.number = .ok (.ratio (q / s.value)) := by
  cases s with
  | int n => exact if_neg hs
  | ratio r => exact if_neg hs

theorem div_ratio_zero (s : ExactScalar) :
    s.number.div (.ratio 0) = .error .divisionByZero := by
  cases s <;> rfl

theorem div_ratio (s : ExactScalar) {q : Rat} (hq : q ≠ 0) :
    s.number.div (.ratio q) = .ok (.ratio (s.value / q)) := by
  cases s with
  | int n => exact if_neg hq
  | ratio r => exact if_neg hq

end ExactScalar

/-- A quantity in base units: a dimension and a plain fraction. -/
@[ext] structure BaseQuantity where
  dimension : Dimension
  amount : Rat

namespace ExactQuantity

def quantity (v : ExactQuantity) : Quantity Operand :=
  ⟨.number (.ratio v.magnitude), ⟨v.dimension, .number (.ratio v.factor)⟩⟩

def operand (v : ExactQuantity) : Operand :=
  .quantity v.quantity

/-- The fraction in base units. -/
def inBase (v : ExactQuantity) : BaseQuantity :=
  ⟨v.dimension, v.magnitude * v.factor⟩

theorem factor_ne_zero (v : ExactQuantity) : v.factor ≠ 0 :=
  ne_of_gt v.positive

theorem amount_eq_zero (v : ExactQuantity) : v.inBase.amount = 0 ↔ v.magnitude = 0 := by
  simp [inBase, v.factor_ne_zero]

theorem baseMagnitude_quantity (v : ExactQuantity) :
    v.quantity.baseMagnitude = .ok (.number (.ratio v.inBase.amount)) := rfl

end ExactQuantity

namespace BaseQuantity

def add (a b : BaseQuantity) : Except Failure BaseQuantity :=
  if a.dimension = b.dimension then .ok ⟨a.dimension, a.amount + b.amount⟩
  else .error (.dimensionMismatch "Add" a.dimension b.dimension)

def sub (a b : BaseQuantity) : Except Failure BaseQuantity :=
  if a.dimension = b.dimension then .ok ⟨a.dimension, a.amount - b.amount⟩
  else .error (.dimensionMismatch "Sub" a.dimension b.dimension)

def mul (a b : BaseQuantity) : BaseQuantity :=
  ⟨a.dimension + b.dimension, a.amount * b.amount⟩

def div (a b : BaseQuantity) : Except Failure BaseQuantity :=
  if b.amount = 0 then .error .divisionByZero
  else .ok ⟨a.dimension - b.dimension, a.amount / b.amount⟩

def scale (a : BaseQuantity) (q : Rat) : BaseQuantity :=
  ⟨a.dimension, a.amount * q⟩

def scaleLeft (q : Rat) (a : BaseQuantity) : BaseQuantity :=
  ⟨a.dimension, q * a.amount⟩

def shrink (a : BaseQuantity) (q : Rat) : Except Failure BaseQuantity :=
  if q = 0 then .error .divisionByZero else .ok ⟨a.dimension, a.amount / q⟩

def divideInto (q : Rat) (a : BaseQuantity) : Except Failure BaseQuantity :=
  if a.amount = 0 then .error .divisionByZero
  else .ok ⟨a.dimension.scale (-1), q / a.amount⟩

def pow (a : BaseQuantity) (k : Int) : Except Failure BaseQuantity :=
  if a.amount = 0 ∧ k < 0 then .error .divisionByZero
  else .ok ⟨a.dimension.scale k, a.amount ^ k⟩

def neg (a : BaseQuantity) : BaseQuantity :=
  ⟨a.dimension, -a.amount⟩

def abs (a : BaseQuantity) : BaseQuantity :=
  ⟨a.dimension, |a.amount|⟩

def cast (a : BaseQuantity) (d : Dimension) : Except Failure BaseQuantity :=
  if a.dimension = d then .ok a else .error (.dimensionMismatch "Cast" a.dimension d)

def holds (r : Relation) (p q : Rat) : Bool :=
  match r with
  | .lt => p < q
  | .le => p ≤ q
  | .gt => p > q
  | .ge => p ≥ q

def compare (r : Relation) (a b : BaseQuantity) : Except Failure Bool :=
  if a.dimension = b.dimension then .ok (holds r a.amount b.amount)
  else .error (.dimensionMismatch "Comparison" a.dimension b.dimension)

end BaseQuantity

/-- A failure as an operation reports it. A mismatch names both dimensions. Where one of them has
no text, only a bad value is reported. -/
def Failure.reported : Failure → Failure
  | .dimensionMismatch operation a b =>
    if a.Writable ∧ b.Writable then .dimensionMismatch operation a b else .badValue
  | e => e

theorem Failure.reported_of_not_writable {operation : String} {a b : Dimension}
    (h : ¬a.Writable) : (dimensionMismatch operation a b).reported = .badValue := by
  unfold reported
  exact if_neg fun hw => h hw.1

/-- The same outcome: the same failure as it is reported, or an exact quantity that is the other
one in base units. -/
def Matches (x : Except Failure Operand) (y : Except Failure BaseQuantity) : Prop :=
  match y with
  | .ok b => ∃ v : ExactQuantity, x = .ok v.operand ∧ v.inBase = b
  | .error e => x = .error e.reported

theorem Matches.bind {x : Except Failure Operand} {y : Except Failure BaseQuantity}
    (h : Matches x y) {f : Operand → Except Failure Operand}
    {g : BaseQuantity → Except Failure BaseQuantity}
    (hf : ∀ v : ExactQuantity, Matches (f v.operand) (g v.inBase)) :
    Matches (x >>= f) (y >>= g) := by
  cases y with
  | error e =>
    rw [show x = .error e.reported from h]
    rfl
  | ok b =>
    obtain ⟨v, hx, rfl⟩ := h
    rw [hx]
    exact hf v

namespace ExactQuantity

open Operand in
/-- The arithmetic inside of a quantity of numbers. -/
@[reducible] def inner : Arithmetic Operand := level 0

theorem rescaled_eq (v w : ExactQuantity) :
    @Quantity.rescaled Operand inner v.quantity w.quantity =
      .ok (.number (.ratio (w.magnitude * (w.factor / v.factor)))) := by
  have he : inner.equal w.quantity.unit.factor v.quantity.unit.factor =
      .ok (decide (w.factor = v.factor)) := Number.equal_ratio _ _
  have hd : inner.div w.quantity.unit.factor v.quantity.unit.factor =
      .ok (.number (.ratio (w.factor / v.factor))) :=
    congrArg (Except.map Operand.number) (Number.div_ratio v.factor_ne_zero)
  unfold Quantity.rescaled
  rw [he, hd]
  by_cases h : w.factor = v.factor
  · have h1 : w.factor / v.factor = 1 := by rw [h, div_self v.factor_ne_zero]
    rw [h1, mul_one]
    simp [h, bind, Except.bind, pure, Except.pure]
    rfl
  · simp [h, bind, Except.bind]
    rfl

theorem requireSameDimension_ok {v w : ExactQuantity} (h : v.dimension = w.dimension)
    (operation : String) :
    Quantity.requireSameDimension operation v.quantity w.quantity = .ok ⟨⟩ :=
  if_pos h

theorem requireSameDimension_error {v w : ExactQuantity} (h : v.dimension ≠ w.dimension)
    (operation : String) :
    Quantity.requireSameDimension operation v.quantity w.quantity =
      .error (Failure.dimensionMismatch operation v.dimension w.dimension).reported :=
  (if_neg h).trans (congrArg Except.error (mismatch_eq operation v.dimension w.dimension))

theorem add_matches (v w : ExactQuantity) :
    Matches (Operand.apply .add v.operand w.operand) (v.inBase.add w.inBase) := by
  change Matches ((@Quantity.add Operand inner v.quantity w.quantity).map .quantity) _
  unfold Quantity.add BaseQuantity.add
  by_cases h : v.inBase.dimension = w.inBase.dimension
  · rw [requireSameDimension_ok h, rescaled_eq, if_pos h]
    refine ⟨⟨v.magnitude + w.magnitude * (w.factor / v.factor), v.dimension, v.factor,
      v.positive⟩, rfl, ?_⟩
    have := v.factor_ne_zero
    simp only [inBase, BaseQuantity.mk.injEq, true_and]
    field_simp
  · rw [requireSameDimension_error h, if_neg h]
    rfl

theorem sub_matches (v w : ExactQuantity) :
    Matches (Operand.apply .sub v.operand w.operand) (v.inBase.sub w.inBase) := by
  change Matches ((@Quantity.sub Operand inner v.quantity w.quantity).map .quantity) _
  unfold Quantity.sub BaseQuantity.sub
  by_cases h : v.inBase.dimension = w.inBase.dimension
  · rw [requireSameDimension_ok h, rescaled_eq, if_pos h]
    refine ⟨⟨v.magnitude - w.magnitude * (w.factor / v.factor), v.dimension, v.factor,
      v.positive⟩, rfl, ?_⟩
    have := v.factor_ne_zero
    simp only [inBase, BaseQuantity.mk.injEq, true_and]
    field_simp
  · rw [requireSameDimension_error h, if_neg h]
    rfl

theorem mul_matches (v w : ExactQuantity) :
    Matches (Operand.apply .mul v.operand w.operand) (.ok (v.inBase.mul w.inBase)) := by
  refine ⟨⟨v.magnitude * w.magnitude, v.dimension + w.dimension, v.factor * w.factor,
    mul_pos v.positive w.positive⟩, rfl, ?_⟩
  simp only [inBase, BaseQuantity.mul, BaseQuantity.mk.injEq, true_and]
  ring

theorem div_matches (v w : ExactQuantity) :
    Matches (Operand.apply .div v.operand w.operand) (v.inBase.div w.inBase) := by
  change Matches ((@Quantity.div Operand inner v.quantity w.quantity).map .quantity) _
  unfold Quantity.div BaseQuantity.div
  by_cases h : w.magnitude = 0
  · have hd : inner.div v.quantity.magnitude w.quantity.magnitude = .error .divisionByZero := by
      simp only [quantity, h]
      rfl
    rw [hd, if_pos (w.amount_eq_zero.mpr h)]
    rfl
  · have hd : inner.div v.quantity.magnitude w.quantity.magnitude =
        .ok (.number (.ratio (v.magnitude / w.magnitude))) :=
      congrArg (Except.map Operand.number) (Number.div_ratio h)
    have hu : inner.div v.quantity.unit.factor w.quantity.unit.factor =
        .ok (.number (.ratio (v.factor / w.factor))) :=
      congrArg (Except.map Operand.number) (Number.div_ratio w.factor_ne_zero)
    unfold MeasureUnit.invertCombine
    rw [hd, hu, if_neg (mt w.amount_eq_zero.mp h)]
    refine ⟨⟨v.magnitude / w.magnitude, v.dimension - w.dimension, v.factor / w.factor,
      div_pos v.positive w.positive⟩, rfl, ?_⟩
    simp only [inBase, BaseQuantity.mk.injEq, true_and]
    have := w.factor_ne_zero
    field_simp

theorem scale_matches (v : ExactQuantity) (s : ExactScalar) :
    Matches (Operand.apply .mul v.operand (.number s.number)) (.ok (v.inBase.scale s.value)) := by
  change Matches ((@Quantity.scale Operand inner v.quantity (.number s.number)).map .quantity) _
  have hm : inner.mul v.quantity.magnitude (.number s.number) =
      .ok (.number (.ratio (v.magnitude * s.value))) :=
    congrArg (Except.map Operand.number) (s.ratio_mul v.magnitude)
  unfold Quantity.scale
  rw [hm]
  refine ⟨⟨v.magnitude * s.value, v.dimension, v.factor, v.positive⟩, rfl, ?_⟩
  simp only [inBase, BaseQuantity.scale, BaseQuantity.mk.injEq, true_and]
  ring

theorem scaleLeft_matches (s : ExactScalar) (v : ExactQuantity) :
    Matches (Operand.apply .mul (.number s.number) v.operand)
      (.ok (.scaleLeft s.value v.inBase)) := by
  change Matches ((@Quantity.scaleLeft Operand inner (.number s.number) v.quantity).map
    .quantity) _
  have hm : inner.mul (.number s.number) v.quantity.magnitude =
      .ok (.number (.ratio (s.value * v.magnitude))) :=
    congrArg (Except.map Operand.number) (s.mul_ratio v.magnitude)
  unfold Quantity.scaleLeft
  rw [hm]
  refine ⟨⟨s.value * v.magnitude, v.dimension, v.factor, v.positive⟩, rfl, ?_⟩
  simp only [inBase, BaseQuantity.scaleLeft, BaseQuantity.mk.injEq, true_and]
  ring

theorem shrink_matches (v : ExactQuantity) (s : ExactScalar) :
    Matches (Operand.apply .div v.operand (.number s.number)) (v.inBase.shrink s.value) := by
  change Matches ((@Quantity.shrink Operand inner v.quantity (.number s.number)).map .quantity) _
  unfold Quantity.shrink BaseQuantity.shrink
  by_cases h : s.value = 0
  · have hd : inner.div v.quantity.magnitude (.number s.number) = .error .divisionByZero :=
      congrArg (Except.map Operand.number) (s.ratio_div_zero v.magnitude h)
    rw [hd, if_pos h]
    rfl
  · have hd : inner.div v.quantity.magnitude (.number s.number) =
        .ok (.number (.ratio (v.magnitude / s.value))) :=
      congrArg (Except.map Operand.number) (s.ratio_div v.magnitude h)
    rw [hd, if_neg h]
    refine ⟨⟨v.magnitude / s.value, v.dimension, v.factor, v.positive⟩, rfl, ?_⟩
    simp only [inBase, BaseQuantity.mk.injEq, true_and]
    ring

theorem divideInto_matches (s : ExactScalar) (v : ExactQuantity) :
    Matches (Operand.apply .div (.number s.number) v.operand)
      (BaseQuantity.divideInto s.value v.inBase) := by
  change Matches ((@Quantity.divideInto Operand inner (.number s.number) v.quantity).map
    .quantity) _
  unfold Quantity.divideInto BaseQuantity.divideInto
  by_cases h : v.magnitude = 0
  · have hd : inner.div (.number s.number) v.quantity.magnitude = .error .divisionByZero := by
      simp only [quantity, h]
      exact congrArg (Except.map Operand.number) s.div_ratio_zero
    rw [hd, if_pos (v.amount_eq_zero.mpr h)]
    rfl
  · have hd : inner.div (.number s.number) v.quantity.magnitude =
        .ok (.number (.ratio (s.value / v.magnitude))) :=
      congrArg (Except.map Operand.number) (s.div_ratio h)
    have hu : inner.pow v.quantity.unit.factor (-1) =
        .ok (.number (.ratio (v.factor ^ (-1 : Int)))) :=
      congrArg (Except.map Operand.number) (Number.pow_ratio_of_ne_zero v.factor_ne_zero (-1))
    unfold MeasureUnit.power
    rw [hd, hu, if_neg (mt v.amount_eq_zero.mp h)]
    refine ⟨⟨s.value / v.magnitude, v.dimension.scale (-1), v.factor ^ (-1 : Int),
      zpow_pos v.positive (-1)⟩, rfl, ?_⟩
    simp only [inBase, BaseQuantity.mk.injEq, true_and]
    have := v.factor_ne_zero
    field_simp

theorem pow_matches (v : ExactQuantity) (k : Int) :
    Matches (Operand.apply .pow v.operand (.int k)) (v.inBase.pow k) := by
  change Matches ((@Quantity.pow Operand inner v.quantity k).map .quantity) _
  unfold Quantity.pow BaseQuantity.pow
  by_cases h : v.magnitude = 0 ∧ k < 0
  · have hp : inner.pow v.quantity.magnitude k = .error .divisionByZero := by
      simp only [quantity, h.1]
      exact congrArg (Except.map Operand.number) (Number.pow_ratio_zero h.2)
    rw [hp, if_pos ⟨v.amount_eq_zero.mpr h.1, h.2⟩]
    rfl
  · have hm : Number.pow (.ratio v.magnitude) k = .ok (.ratio (v.magnitude ^ k)) := by
      by_cases hz : v.magnitude = 0
      · exact Number.pow_ratio_of_nonneg _ (not_lt.mp fun hk => h ⟨hz, hk⟩)
      · exact Number.pow_ratio_of_ne_zero hz k
    have hp : inner.pow v.quantity.magnitude k = .ok (.number (.ratio (v.magnitude ^ k))) :=
      congrArg (Except.map Operand.number) hm
    have hu : inner.pow v.quantity.unit.factor k = .ok (.number (.ratio (v.factor ^ k))) :=
      congrArg (Except.map Operand.number) (Number.pow_ratio_of_ne_zero v.factor_ne_zero k)
    unfold MeasureUnit.power
    rw [hp, hu, if_neg fun hz => h ⟨v.amount_eq_zero.mp hz.1, hz.2⟩]
    refine ⟨⟨v.magnitude ^ k, v.dimension.scale k, v.factor ^ k, zpow_pos v.positive k⟩,
      rfl, ?_⟩
    simp only [inBase, BaseQuantity.mk.injEq, true_and]
    exact (mul_zpow _ _ k).symm

theorem neg_matches (v : ExactQuantity) :
    Matches (v.operand.applySign "-") (.ok v.inBase.neg) := by
  refine ⟨⟨-v.magnitude, v.dimension, v.factor, v.positive⟩, rfl, ?_⟩
  simp only [inBase, BaseQuantity.neg, BaseQuantity.mk.injEq, true_and]
  ring

theorem abs_matches (v : ExactQuantity) :
    Matches (v.operand.applySign "abs") (.ok v.inBase.abs) := by
  have ha : inner.abs v.quantity.magnitude = .ok (.number (.ratio |v.magnitude|)) :=
    congrArg (Except.map Operand.number) (Number.abs_ratio v.magnitude)
  change Matches ((@Quantity.abs Operand inner v.quantity).map .quantity) _
  unfold Quantity.abs
  rw [ha]
  refine ⟨⟨|v.magnitude|, v.dimension, v.factor, v.positive⟩, rfl, ?_⟩
  simp only [inBase, BaseQuantity.abs, BaseQuantity.mk.injEq, true_and]
  rw [abs_mul, abs_of_pos v.positive]

/-- The unit of an exact quantity, as an operand. -/
def unitOperand (d : Dimension) (factor : Rat) : Operand :=
  .unit ⟨d, .number (.ratio factor)⟩

theorem cast_operand (v : ExactQuantity) (d : Dimension) (factor : Rat) :
    v.operand.cast (unitOperand d factor) =
      if v.inBase.dimension = d then (v.quantity.cast ⟨d, .number (.ratio factor)⟩).map .quantity
      else .error (mismatch "Cast" v.dimension d) := by
  change (if d ≠ v.inBase.dimension then _ else _) = _
  by_cases h : v.inBase.dimension = d
  · rw [if_neg (not_not.mpr h.symm), if_pos h]
    rfl
  · rw [if_pos (Ne.symm h), if_neg h]
    rfl

theorem cast_matches (v : ExactQuantity) (d : Dimension) {factor : Rat} (hf : 0 < factor) :
    Matches (v.operand.cast (unitOperand d factor)) (v.inBase.cast d) := by
  rw [cast_operand]
  unfold BaseQuantity.cast
  by_cases h : v.inBase.dimension = d
  · have hd : Arithmetic.div v.quantity.unit.factor (.number (.ratio factor)) =
        .ok (.number (.ratio (v.factor / factor))) :=
      congrArg (Except.map Operand.number) (Number.div_ratio (ne_of_gt hf))
    have hc : v.quantity.cast ⟨d, .number (.ratio factor)⟩ =
        .ok ⟨.number (.ratio (v.magnitude * (v.factor / factor))),
          ⟨d, .number (.ratio factor)⟩⟩ := by
      unfold Quantity.cast
      rw [hd]
      exact if_neg (not_not.mpr h.symm)
    rw [if_pos h, hc, if_pos h]
    refine ⟨⟨v.magnitude * (v.factor / factor), d, factor, hf⟩, rfl, ?_⟩
    simp only [inBase, BaseQuantity.mk.injEq]
    refine ⟨h.symm, ?_⟩
    have := ne_of_gt hf
    field_simp
  · rw [if_neg h, if_neg h]
    exact congrArg Except.error (mismatch_eq "Cast" v.dimension d)

theorem holds_compareRat (r : Relation) (p q : Rat) :
    r.holds (some (Number.compareRat p q)) = BaseQuantity.holds r p q := by
  unfold Number.compareRat BaseQuantity.holds Relation.holds
  rcases lt_trichotomy p q with h | h | h
  · cases r <;> simp [h, h.le, h.not_gt, h.not_ge]
  · cases r <;> simp [h]
  · cases r <;> simp [h, h.le, h.not_gt, h.not_ge, h.ne']

theorem compare_matches (r : Relation) (v w : ExactQuantity) :
    Operand.apply (.relation r) v.operand w.operand =
      ((v.inBase.compare r w.inBase).mapError Failure.reported).map Operand.bool := by
  change ((@Quantity.order Operand inner v.quantity w.quantity).map fun o =>
    Operand.bool (r.holds o)) = _
  unfold Quantity.order BaseQuantity.compare
  by_cases h : v.inBase.dimension = w.inBase.dimension
  · have hm : w.magnitude * (w.factor / v.factor) * v.factor = w.inBase.amount := by
      have := v.factor_ne_zero
      simp only [inBase]
      field_simp
    have hc := Number.compareRat_mul v.magnitude (w.magnitude * (w.factor / v.factor)) v.positive
    rw [hm] at hc
    rw [requireSameDimension_ok h, rescaled_eq, if_pos h]
    change Except.ok (Operand.bool (r.holds (some (Number.compareRat v.magnitude _)))) = _
    rw [← hc, holds_compareRat]
    rfl
  · rw [requireSameDimension_error h, if_neg h]
    rfl

end ExactQuantity

end Metrology
