import Metrology.Arithmetic

namespace Metrology

/-- A dimension, and the factor that converts one of the unit into base units. -/
structure MeasureUnit (α : Type) where
  dimension : Dimension
  factor : α

namespace MeasureUnit

variable {α : Type} [Arithmetic α]

def compose (a b : MeasureUnit α) : Except Failure (MeasureUnit α) := do
  return ⟨a.dimension + b.dimension, ← Arithmetic.mul a.factor b.factor⟩

def invertCombine (a b : MeasureUnit α) : Except Failure (MeasureUnit α) := do
  return ⟨a.dimension - b.dimension, ← Arithmetic.div a.factor b.factor⟩

def power (a : MeasureUnit α) (k : Int) : Except Failure (MeasureUnit α) := do
  return ⟨a.dimension.scale k, ← Arithmetic.pow a.factor k⟩

omit [Arithmetic α] in
def isDimensionless (a : MeasureUnit α) : Bool :=
  a.dimension.isDimensionless

/-- Units of one dimension are ordered by their factors. Others do not compare. -/
def partialCompare (a b : MeasureUnit α) : Except Failure (Option Ordering) := do
  if a.dimension ≠ b.dimension then return none
  if ← Arithmetic.lt a.factor b.factor then return some .lt
  if ← Arithmetic.lt b.factor a.factor then return some .gt
  return some .eq

def equal (a b : MeasureUnit α) : Except Failure Bool :=
  if a.dimension = b.dimension then Arithmetic.equal a.factor b.factor else .ok false

end MeasureUnit

end Metrology
