import Metrology.Proofs.Quantity.Exact

namespace Metrology

/-- A calculation that starts from exact quantities. -/
inductive Calculation
  | leaf (v : ExactQuantity)
  | add (l r : Calculation)
  | sub (l r : Calculation)
  | mul (l r : Calculation)
  | div (l r : Calculation)
  | scale (t : Calculation) (s : ExactScalar)
  | scaleLeft (s : ExactScalar) (t : Calculation)
  | shrink (t : Calculation) (s : ExactScalar)
  | divideInto (s : ExactScalar) (t : Calculation)
  | pow (t : Calculation) (k : Int)
  | neg (t : Calculation)
  | abs (t : Calculation)
  | cast (t : Calculation) (d : Dimension) (factor : Rat) (positive : 0 < factor)

/-- Two calculations and what is asked about their results. -/
structure Comparison where
  relation : Relation
  left : Calculation
  right : Calculation

namespace Calculation

/-- The calculation with quantities, the left side first. -/
def evaluate : Calculation → Except Failure Operand
  | leaf v => .ok v.operand
  | add l r => do Operand.apply .add (← l.evaluate) (← r.evaluate)
  | sub l r => do Operand.apply .sub (← l.evaluate) (← r.evaluate)
  | mul l r => do Operand.apply .mul (← l.evaluate) (← r.evaluate)
  | div l r => do Operand.apply .div (← l.evaluate) (← r.evaluate)
  | scale t s => do Operand.apply .mul (← t.evaluate) (.number s.number)
  | scaleLeft s t => do Operand.apply .mul (.number s.number) (← t.evaluate)
  | shrink t s => do Operand.apply .div (← t.evaluate) (.number s.number)
  | divideInto s t => do Operand.apply .div (.number s.number) (← t.evaluate)
  | pow t k => do Operand.apply .pow (← t.evaluate) (.int k)
  | neg t => do (← t.evaluate).applySign "-"
  | abs t => do (← t.evaluate).applySign "abs"
  | cast t d factor _ => do (← t.evaluate).cast (ExactQuantity.unitOperand d factor)

/-- The calculation in base units. -/
def reference : Calculation → Except Failure BaseQuantity
  | leaf v => .ok v.inBase
  | add l r => do (← l.reference).add (← r.reference)
  | sub l r => do (← l.reference).sub (← r.reference)
  | mul l r => do return (← l.reference).mul (← r.reference)
  | div l r => do (← l.reference).div (← r.reference)
  | scale t s => do return (← t.reference).scale s.value
  | scaleLeft s t => do return .scaleLeft s.value (← t.reference)
  | shrink t s => do (← t.reference).shrink s.value
  | divideInto s t => do BaseQuantity.divideInto s.value (← t.reference)
  | pow t k => do (← t.reference).pow k
  | neg t => do return (← t.reference).neg
  | abs t => do return (← t.reference).abs
  | cast t d _ _ => do (← t.reference).cast d

theorem evaluate_matches (t : Calculation) : Matches t.evaluate t.reference := by
  induction t with
  | leaf v => exact ⟨v, rfl, rfl⟩
  | add l r hl hr => exact hl.bind fun v => hr.bind fun w => v.add_matches w
  | sub l r hl hr => exact hl.bind fun v => hr.bind fun w => v.sub_matches w
  | mul l r hl hr => exact hl.bind fun v => hr.bind fun w => v.mul_matches w
  | div l r hl hr => exact hl.bind fun v => hr.bind fun w => v.div_matches w
  | scale t s ht => exact ht.bind fun v => v.scale_matches s
  | scaleLeft s t ht => exact ht.bind fun v => v.scaleLeft_matches s
  | shrink t s ht => exact ht.bind fun v => v.shrink_matches s
  | divideInto s t ht => exact ht.bind fun v => v.divideInto_matches s
  | pow t k ht => exact ht.bind fun v => v.pow_matches k
  | neg t ht => exact ht.bind fun v => v.neg_matches
  | abs t ht => exact ht.bind fun v => v.abs_matches
  | cast t d factor hf ht => exact ht.bind fun v => v.cast_matches d hf

end Calculation

namespace Comparison

def evaluate (c : Comparison) : Except Failure Operand := do
  Operand.apply (.relation c.relation) (← c.left.evaluate) (← c.right.evaluate)

def reference (c : Comparison) : Except Failure Bool := do
  (← c.left.reference).compare c.relation (← c.right.reference)

theorem evaluate_eq (c : Comparison) :
    c.evaluate = (c.reference.mapError Failure.reported).map Operand.bool := by
  have hl := c.left.evaluate_matches
  have hr := c.right.evaluate_matches
  unfold evaluate reference
  cases hx : c.left.reference with
  | error e =>
    rw [hx] at hl
    rw [show c.left.evaluate = .error e.reported from hl]
    rfl
  | ok a =>
    rw [hx] at hl
    obtain ⟨v, hv, rfl⟩ := hl
    cases hy : c.right.reference with
    | error e =>
      rw [hy] at hr
      rw [hv, show c.right.evaluate = .error e.reported from hr]
      rfl
    | ok b =>
      rw [hy] at hr
      obtain ⟨w, hw, rfl⟩ := hr
      rw [hv, hw]
      exact v.compare_matches c.relation w

end Comparison

/-- Every calculation has the outcome that it has in base units: a quantity of the same dimension
with exactly that fraction, the same truth value, or the same failure. The one exception is a
mismatch of dimensions that cannot be named. -/
theorem calculation_in_base_units (t : Calculation) (c : Comparison) :
    (match t.reference with
      | .ok b => ∃ v : Quantity Operand, t.evaluate = .ok (.quantity v) ∧
          v.dimension = b.dimension ∧ v.baseMagnitude = .ok (.number (.ratio b.amount))
      | .error e => t.evaluate = .error e.reported) ∧
    match c.reference with
    | .ok holds => c.evaluate = .ok (.bool holds)
    | .error e => c.evaluate = .error e.reported := by
  constructor
  · have h := t.evaluate_matches
    cases ht : t.reference with
    | error e =>
      rw [ht] at h
      exact h
    | ok b =>
      rw [ht] at h
      obtain ⟨v, hv, rfl⟩ := h
      exact ⟨v.quantity, hv, rfl, v.baseMagnitude_quantity⟩
  · have h := c.evaluate_eq
    cases hc : c.reference with
    | error e =>
      rw [hc] at h
      exact h
    | ok holds =>
      rw [hc] at h
      exact h

/-- The sum of a quantity that cannot be named and one of another dimension. -/
theorem sum_of_unnamed {v w : ExactQuantity} (hv : ¬v.dimension.Writable)
    (hw : w.dimension.Writable) :
    (Calculation.add (.leaf v) (.leaf w)).reference =
        .error (.dimensionMismatch "Add" v.dimension w.dimension) ∧
      (Calculation.add (.leaf v) (.leaf w)).evaluate = .error .badValue := by
  have hd : v.inBase.dimension ≠ w.inBase.dimension := by
    intro h
    have hs : v.dimension = w.dimension := h
    exact hv (hs ▸ hw)
  have hr : (Calculation.add (.leaf v) (.leaf w)).reference =
      .error (.dimensionMismatch "Add" v.dimension w.dimension) := if_neg hd
  refine ⟨hr, ?_⟩
  have h := (Calculation.add (.leaf v) (.leaf w)).evaluate_matches
  rw [hr] at h
  exact h.trans (congrArg Except.error (Failure.reported_of_not_writable hv))

/-- The exception does occur, with a metre to a power of one digit too many. -/
theorem sum_of_long_power :
    (Calculation.add
      (.leaf ⟨1, .power .length (pow10 Literal.digitLimit), 1, by decide⟩)
      (.leaf ⟨1, 0, 1, by decide⟩)).reference =
        .error (.dimensionMismatch "Add" (.power .length (pow10 Literal.digitLimit)) 0) ∧
    (Calculation.add
      (.leaf ⟨1, .power .length (pow10 Literal.digitLimit), 1, by decide⟩)
      (.leaf ⟨1, 0, 1, by decide⟩)).evaluate = .error .badValue :=
  sum_of_unnamed (Dimension.not_writable_power (le_refl _)) Dimension.writable_zero

end Metrology
