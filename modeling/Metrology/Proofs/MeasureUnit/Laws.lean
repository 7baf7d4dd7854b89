import Metrology.Calculator.Operators
import Metrology.Proofs.MeasureUnit.Group
import Metrology.System.Basic

namespace Metrology.ProperUnit

theorem one_unit : (1 : ProperUnit).unit = .base 0 .ratio := rfl

/-- One divided by a unit is its reciprocal. -/
theorem div_operand (u : ProperUnit) :
    Operand.apply .div (.int 1) u.operand = .ok (u⁻¹).operand := by
  have hone : (Operand.int 1).isOne = .ok true := rfl
  have hpower : u.unit.power (-1) = .ok (u⁻¹).unit := by rw [power_unit, zpow_neg_one]
  change (do
    if ← (Operand.int 1).isOne then (u.unit.power (-1)).map Operand.unit
    else throw (Failure.notReciprocal (← (Operand.int 1).shown))) = _
  rw [hone, hpower]
  rfl

/-- What holds of any three such units and two exponents. The identity is the unit of no dimension
with the fraction one for its factor. -/
structure GroupLaws (a b c : ProperUnit) (m n : Int) : Prop where
  compose_closed : ∃ u : ProperUnit, a.unit.compose b.unit = .ok u.unit
  invertCombine_closed : ∃ u : ProperUnit, a.unit.invertCombine b.unit = .ok u.unit
  power_closed : ∃ u : ProperUnit, a.unit.power n = .ok u.unit
  compose_assoc : (a.unit.compose b.unit >>= fun ab => ab.compose c.unit) =
    (b.unit.compose c.unit >>= fun bc => a.unit.compose bc)
  compose_comm : a.unit.compose b.unit = b.unit.compose a.unit
  identity_compose : (MeasureUnit.base 0 .ratio).compose a.unit = .ok a.unit
  compose_identity : a.unit.compose (.base 0 .ratio) = .ok a.unit
  invertCombine_eq : a.unit.invertCombine b.unit =
    (b.unit.power (-1) >>= fun inverse => a.unit.compose inverse)
  invertCombine_self : a.unit.invertCombine a.unit = .ok (.base 0 .ratio)
  reciprocal : Operand.apply .div (.int 1) a.operand = (a.unit.power (-1)).map .unit
  power_add : a.unit.power (m + n) = (do (← a.unit.power m).compose (← a.unit.power n))
  power_mul : a.unit.power (m * n) = (a.unit.power m >>= fun am => am.power n)
  compose_power : (a.unit.compose b.unit >>= fun ab => ab.power n) =
    (do (← a.unit.power n).compose (← b.unit.power n))
  power_zero : a.unit.power 0 = .ok (.base 0 .ratio)

/-- Units with fractions other than zero for factors form a commutative group with integer powers,
and no operation of it fails. -/
theorem group_laws (a b c : ProperUnit) (m n : Int) : GroupLaws a b c m n where
  compose_closed := ⟨a * b, compose_unit a b⟩
  invertCombine_closed := ⟨a / b, invertCombine_unit a b⟩
  power_closed := ⟨a ^ n, power_unit a n⟩
  compose_assoc := by
    rw [compose_unit, compose_unit]
    change (a * b).unit.compose c.unit = a.unit.compose (b * c).unit
    rw [compose_unit, compose_unit, mul_assoc]
  compose_comm := by
    rw [compose_unit, compose_unit, mul_comm]
  identity_compose := by
    rw [← one_unit, compose_unit, one_mul]
  compose_identity := by
    rw [← one_unit, compose_unit, mul_one]
  invertCombine_eq := by
    rw [invertCombine_unit, power_unit]
    change _ = a.unit.compose (b ^ (-1 : Int)).unit
    rw [compose_unit, zpow_neg_one, div_eq_mul_inv]
  invertCombine_self := by
    rw [invertCombine_unit, div_self', one_unit]
  reciprocal := by
    rw [div_operand, power_unit, zpow_neg_one]
    rfl
  power_add := by
    rw [power_unit, power_unit, power_unit]
    change _ = (a ^ m).unit.compose (a ^ n).unit
    rw [compose_unit, zpow_add]
  power_mul := by
    rw [power_unit, power_unit]
    change _ = (a ^ m).unit.power n
    rw [power_unit, zpow_mul]
  compose_power := by
    rw [compose_unit, power_unit, power_unit]
    change (a * b).unit.power n = (a ^ n).unit.compose (b ^ n).unit
    rw [power_unit, compose_unit, mul_zpow]
  power_zero := by
    rw [power_unit, zpow_zero, one_unit]

end Metrology.ProperUnit
