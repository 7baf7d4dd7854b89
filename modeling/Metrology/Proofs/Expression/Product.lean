import Metrology.Expression.Meaning
import Metrology.Proofs.Expression.Powers
import Metrology.Proofs.MeasureUnit

namespace Metrology.Expression

variable {lookup : String → Except Failure Operand}

/-- A product asks for nothing but the symbols of its terms. -/
theorem product_congr {other : String → Except Failure Operand} {ts : List Term}
    (h : ∀ t ∈ ts, lookup t.symbol = other t.symbol) (p : MeasureUnit Operand) :
    product lookup p ts = product other p ts := by
  induction ts generalizing p with
  | nil => rfl
  | cons t ts ih =>
    have hm : multiply lookup p t = multiply other p t := by
      rw [multiply, multiply, h t (by simp)]
    unfold product
    rw [List.foldlM_cons, List.foldlM_cons, hm]
    refine bind_congr fun q => ?_
    exact ih (fun t' ht => h t' (by simp [ht])) q

/-- One more term: its exponent scales the dimension and raises the factor. -/
theorem multiply_ratio {t : Term} {u : RatioUnit} (hl : lookup t.symbol = .ok u.operand)
    (hf : u.factor ≠ 0) (p : RatioUnit) :
    multiply lookup p.unit t = .ok (RatioUnit.unit ⟨p.dimension + u.dimension.scale t.signedExponent,
      p.factor * u.factor ^ t.signedExponent⟩) := by
  unfold multiply
  rw [hl]
  change (u.unit.power t.signedExponent >>= fun power => p.unit.compose power) = _
  rw [RatioUnit.power_unit hf]
  exact RatioUnit.compose_unit p _

theorem product_cons {t : Term} {u : RatioUnit} (hl : lookup t.symbol = .ok u.operand)
    (hf : u.factor ≠ 0) (p : RatioUnit) (ts : List Term) :
    product lookup p.unit (t :: ts) = product lookup
      (RatioUnit.unit ⟨p.dimension + u.dimension.scale t.signedExponent,
        p.factor * u.factor ^ t.signedExponent⟩) ts := by
  unfold product
  rw [List.foldlM_cons, multiply_ratio hl hf]
  rfl

/-- A symbol alone stands for its unit, of whatever factor. -/
theorem product_symbol {key : String} {u : RatioUnit} (hl : lookup key = .ok u.operand) :
    product lookup (RatioUnit.unit ⟨0, 1⟩) [⟨key, 1, false⟩] = .ok u.unit := by
  unfold product
  rw [List.foldlM_cons, multiply, hl]
  change ((u.unit.power 1 >>= fun power => (RatioUnit.unit ⟨0, 1⟩).compose power) >>=
    fun p => [].foldlM (multiply lookup) p) = _
  rw [u.power_one]
  change ((RatioUnit.unit ⟨0, 1⟩).compose u.unit >>= _) = _
  rw [u.one_compose]
  rfl

/-- Powers of base units multiply to the dimension that has their exponents. -/
theorem product_base {symbol : Axis → String} {d : Dimension}
    (hl : ∀ axis, lookup (symbol axis) = .ok (RatioUnit.operand ⟨.power axis 1, 1⟩))
    {axes : List Axis} (hn : axes.Nodup) (p : RatioUnit) :
    ∃ e : Dimension, (∀ axis, e.exponent axis =
        p.dimension.exponent axis + if axis ∈ axes then d.exponent axis else 0) ∧
      product lookup p.unit (axes.map fun axis => ⟨symbol axis, d.exponent axis, false⟩) =
        .ok (RatioUnit.unit ⟨e, p.factor⟩) := by
  induction axes generalizing p with
  | nil => exact ⟨p.dimension, by simp, rfl⟩
  | cons axis axes ih =>
    obtain ⟨hm, hn⟩ := List.nodup_cons.mp hn
    have h1 : (1 : Rat) ≠ 0 := by decide
    obtain ⟨e, he, hp⟩ := ih hn ⟨p.dimension + (Dimension.power axis 1).scale (d.exponent axis),
      p.factor * 1 ^ d.exponent axis⟩
    refine ⟨e, ?_, ?_⟩
    · intro a
      rw [he, Dimension.exponent_add, Dimension.exponent_scale, Dimension.power,
        Dimension.exponent_ofExponents]
      by_cases ha : a = axis
      · subst ha
        simp [hm]
      · simp [ha]
    · rw [List.map_cons, product_cons (hl axis) h1]
      change product lookup (RatioUnit.unit ⟨p.dimension + (Dimension.power axis 1).scale
        (d.exponent axis), p.factor * 1 ^ d.exponent axis⟩) _ = _
      rw [hp]
      simp

end Metrology.Expression
