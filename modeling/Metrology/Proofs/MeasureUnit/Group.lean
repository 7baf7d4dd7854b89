import Mathlib.Algebra.BigOperators.Group.List.Basic
import Mathlib.Algebra.Group.InjSurj
import Mathlib.Algebra.Group.Int.TypeTags
import Mathlib.Algebra.Group.Prod
import Mathlib.Algebra.GroupWithZero.Action.Defs
import Mathlib.Algebra.GroupWithZero.Units.Basic
import Metrology.Proofs.MeasureUnit

namespace Metrology

namespace Dimension

theorem exponent_injective : Function.Injective exponent :=
  fun _ _ h => eq_of_exponent_eq (congrFun h)

instance : SMul Nat Dimension := ⟨fun n d => d.scale n⟩
instance : SMul Int Dimension := ⟨fun k d => d.scale k⟩

theorem exponent_neg (d : Dimension) (axis : Axis) : (-d).exponent axis = -d.exponent axis := by
  change (d.scale (-1)).exponent axis = _
  rw [exponent_scale, Int.mul_neg_one]

theorem exponent_nsmul (n : Nat) (d : Dimension) (axis : Axis) :
    (n • d).exponent axis = n • d.exponent axis := by
  change (d.scale n).exponent axis = _
  rw [exponent_scale, nsmul_eq_mul, Int.mul_comm]

theorem exponent_zsmul (k : Int) (d : Dimension) (axis : Axis) :
    (k • d).exponent axis = k • d.exponent axis := by
  change (d.scale k).exponent axis = _
  rw [exponent_scale, smul_eq_mul, Int.mul_comm]

/-- Dimensions are added axis by axis. -/
instance : AddCommGroup Dimension :=
  exponent_injective.addCommGroup exponent (funext exponent_zero)
    (fun a b => funext (exponent_add a b)) (fun d => funext (exponent_neg d))
    (fun a b => funext (exponent_sub a b)) (fun d n => funext (exponent_nsmul n d))
    (fun d k => funext (exponent_zsmul k d))

end Dimension

/-- A unit with a fraction other than zero for its factor. -/
structure ProperUnit extends RatioUnit where
  factor_ne_zero : factor ≠ 0

namespace ProperUnit

instance : One ProperUnit := ⟨⟨0, 1⟩, one_ne_zero⟩

instance : Mul ProperUnit where
  mul a b := ⟨⟨a.dimension + b.dimension, a.factor * b.factor⟩,
    mul_ne_zero a.factor_ne_zero b.factor_ne_zero⟩

instance : Inv ProperUnit where
  inv u := ⟨⟨-u.dimension, u.factor⁻¹⟩, inv_ne_zero u.factor_ne_zero⟩

instance : Div ProperUnit where
  div a b := ⟨⟨a.dimension - b.dimension, a.factor / b.factor⟩,
    div_ne_zero a.factor_ne_zero b.factor_ne_zero⟩

instance : Pow ProperUnit Nat where
  pow u n := ⟨⟨n • u.dimension, u.factor ^ n⟩, pow_ne_zero n u.factor_ne_zero⟩

instance : Pow ProperUnit Int where
  pow u k := ⟨⟨k • u.dimension, u.factor ^ k⟩, zpow_ne_zero k u.factor_ne_zero⟩

/-- The dimension and the factor, as an element of the product of two groups. -/
def coordinates (u : ProperUnit) : Multiplicative Dimension × Ratˣ :=
  (.ofAdd u.dimension, .mk0 u.factor u.factor_ne_zero)

theorem coordinates_injective : Function.Injective coordinates := by
  rintro ⟨⟨d, q⟩, hq⟩ ⟨⟨e, r⟩, hr⟩ h
  obtain ⟨hd, hf⟩ := Prod.mk.inj h
  obtain rfl : d = e := hd
  obtain rfl : q = r := congrArg Units.val hf
  rfl

/-- Dimensions are added, and factors are multiplied. -/
instance : CommGroup ProperUnit :=
  coordinates_injective.commGroup coordinates
    (Prod.ext rfl (Units.ext rfl))
    (fun _ _ => Prod.ext rfl (Units.ext rfl))
    (fun _ => Prod.ext rfl (Units.ext rfl))
    (fun _ _ => Prod.ext rfl (Units.ext (div_eq_mul_inv _ _)))
    (fun _ _ => Prod.ext rfl (Units.ext rfl))
    (fun u k => Prod.ext rfl
      (Units.ext (Units.val_zpow_eq_zpow_val (.mk0 u.factor u.factor_ne_zero) k).symm))

theorem compose_unit (a b : ProperUnit) : a.unit.compose b.unit = .ok (a * b).unit := rfl

theorem invertCombine_unit (a b : ProperUnit) :
    a.unit.invertCombine b.unit = .ok (a / b).unit := by
  have hq : Arithmetic.div a.unit.factor b.unit.factor =
      .ok (Operand.number (.ratio (a.factor / b.factor))) :=
    congrArg (Except.map Operand.number) (Number.div_ratio b.factor_ne_zero)
  unfold MeasureUnit.invertCombine
  rw [hq]
  rfl

theorem power_unit (u : ProperUnit) (k : Int) : u.unit.power k = .ok (u ^ k).unit :=
  RatioUnit.power_unit u.factor_ne_zero k

theorem exponent_prod (us : List ProperUnit) (axis : Axis) :
    us.prod.dimension.exponent axis = (us.map fun u => u.dimension.exponent axis).sum := by
  induction us with
  | nil => exact Dimension.exponent_zero axis
  | cons u us ih =>
    rw [List.prod_cons, List.map_cons, List.sum_cons, ← ih]
    exact Dimension.exponent_add u.dimension us.prod.dimension axis

theorem factor_prod (us : List ProperUnit) : us.prod.factor = (us.map (·.factor)).prod := by
  induction us with
  | nil => rfl
  | cons u us ih =>
    rw [List.prod_cons, List.map_cons, List.prod_cons, ← ih]
    rfl

end ProperUnit

end Metrology
