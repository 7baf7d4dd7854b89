import Metrology.Proofs.Number.Ratio

namespace Metrology

/-- A unit with a fraction for its factor. -/
structure RatioUnit where
  dimension : Dimension
  factor : Rat

namespace RatioUnit

def unit (u : RatioUnit) : MeasureUnit Operand :=
  ⟨u.dimension, .number (.ratio u.factor)⟩

def operand (u : RatioUnit) : Operand :=
  .unit u.unit

theorem compose_unit (a b : RatioUnit) :
    a.unit.compose b.unit = .ok (unit ⟨a.dimension + b.dimension, a.factor * b.factor⟩) := rfl

theorem power_unit {u : RatioUnit} (h : u.factor ≠ 0) (k : Int) :
    u.unit.power k = .ok (unit ⟨u.dimension.scale k, u.factor ^ k⟩) := by
  have hp : Arithmetic.pow u.unit.factor k = .ok (Operand.number (.ratio (u.factor ^ k))) :=
    congrArg (Except.map Operand.number) (Number.pow_ratio_of_ne_zero h k)
  unfold MeasureUnit.power
  rw [hp]
  rfl

theorem power_one (u : RatioUnit) : u.unit.power 1 = .ok u.unit := by
  have hn : Number.pow (.ratio u.factor) 1 = .ok (.ratio u.factor) := by
    rw [Number.pow_ratio_of_nonneg _ (by decide), Rat.zpow_one]
  have hp : Arithmetic.pow u.unit.factor 1 = .ok (Operand.number (.ratio u.factor)) :=
    congrArg (Except.map Operand.number) hn
  have hd : u.dimension.scale 1 = u.dimension :=
    Dimension.eq_of_exponent_eq fun axis => by simp
  unfold MeasureUnit.power
  rw [hp]
  exact congrArg (fun d => Except.ok (unit ⟨d, u.factor⟩)) hd

theorem one_compose (u : RatioUnit) : (unit ⟨0, 1⟩).compose u.unit = .ok u.unit := by
  have hd : 0 + u.dimension = u.dimension := Dimension.eq_of_exponent_eq fun axis => by simp
  rw [compose_unit, hd, Rat.one_mul]

end RatioUnit

end Metrology
