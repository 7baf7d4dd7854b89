import Metrology.Failure.Message
import Metrology.MeasureUnit

namespace Metrology

/-- A magnitude in a unit. Sums, differences and comparisons bring the second of two quantities into
the unit of the first. Products and quotients combine the units as they are. -/
structure Quantity (α : Type) where
  magnitude : α
  unit : MeasureUnit α

namespace Quantity

variable {α : Type}

def dimension (v : Quantity α) : Dimension :=
  v.unit.dimension

def requireSameDimension (operation : String) (v w : Quantity α) : Except Failure PUnit :=
  if v.dimension = w.dimension then .ok ⟨⟩ else .error (mismatch operation v.dimension w.dimension)

variable [Arithmetic α]

def baseMagnitude (v : Quantity α) : Except Failure α :=
  Arithmetic.mul v.magnitude v.unit.factor

/-- The magnitude of the second quantity in the unit of the first. Between equal factors it is
not touched. -/
def rescaled (v w : Quantity α) : Except Failure α := do
  if ← Arithmetic.equal w.unit.factor v.unit.factor then return w.magnitude
  Arithmetic.mul w.magnitude (← Arithmetic.div w.unit.factor v.unit.factor)

def cast (v : Quantity α) (target : MeasureUnit α) : Except Failure (Quantity α) := do
  if target.dimension ≠ v.dimension then
    throw (mismatch "Cast" v.dimension target.dimension)
  let ratio ← Arithmetic.div v.unit.factor target.factor
  return ⟨← Arithmetic.mul v.magnitude ratio, target⟩

def add (v w : Quantity α) : Except Failure (Quantity α) := do
  requireSameDimension "Add" v w
  return ⟨← Arithmetic.add v.magnitude (← v.rescaled w), v.unit⟩

def sub (v w : Quantity α) : Except Failure (Quantity α) := do
  requireSameDimension "Sub" v w
  return ⟨← Arithmetic.sub v.magnitude (← v.rescaled w), v.unit⟩

def mul (v w : Quantity α) : Except Failure (Quantity α) := do
  return ⟨← Arithmetic.mul v.magnitude w.magnitude, ← v.unit.compose w.unit⟩

def div (v w : Quantity α) : Except Failure (Quantity α) := do
  return ⟨← Arithmetic.div v.magnitude w.magnitude, ← v.unit.invertCombine w.unit⟩

/-- A quantity times a number. -/
def scale (v : Quantity α) (s : α) : Except Failure (Quantity α) := do
  return ⟨← Arithmetic.mul v.magnitude s, v.unit⟩

/-- A number times a quantity. -/
def scaleLeft (s : α) (v : Quantity α) : Except Failure (Quantity α) := do
  return ⟨← Arithmetic.mul s v.magnitude, v.unit⟩

def shrink (v : Quantity α) (s : α) : Except Failure (Quantity α) := do
  return ⟨← Arithmetic.div v.magnitude s, v.unit⟩

/-- A number over a quantity. -/
def divideInto (s : α) (v : Quantity α) : Except Failure (Quantity α) := do
  return ⟨← Arithmetic.div s v.magnitude, ← v.unit.power (-1)⟩

def pow (v : Quantity α) (k : Int) : Except Failure (Quantity α) := do
  return ⟨← Arithmetic.pow v.magnitude k, ← v.unit.power k⟩

def neg (v : Quantity α) : Except Failure (Quantity α) := do
  return ⟨← Arithmetic.neg v.magnitude, v.unit⟩

def abs (v : Quantity α) : Except Failure (Quantity α) := do
  return ⟨← Arithmetic.abs v.magnitude, v.unit⟩

/-- How the magnitudes compare once the second is in the unit of the first. -/
def order (v w : Quantity α) : Except Failure (Option Ordering) := do
  requireSameDimension "Comparison" v w
  Arithmetic.order v.magnitude (← v.rescaled w)

def equal (v w : Quantity α) : Except Failure Bool := do
  if ← Arithmetic.equal v.magnitude w.magnitude then v.unit.equal w.unit else return false

/-- Whether two floats differ by no more than a share of the larger one, or by no more than an
absolute tolerance. -/
def floatsClose (a b relative absolute : Float) : Except Failure Bool :=
  if relative < 0 || absolute < 0 then .error .badValue
  else if a == b then .ok true
  else if a.isInf || b.isInf then .ok false
  else
    let diff := (b - a).abs
    .ok (diff ≤ (relative * b).abs || diff ≤ (relative * a).abs || diff ≤ absolute)

def defaultTolerance : Float :=
  Binary64.ofDecimal false 1 (-9)

/-- Whether two quantities are of one dimension and nearly equal in base units. -/
def isClose (v w : Quantity α) (relative absolute : α) : Except Failure Bool := do
  if v.dimension ≠ w.dimension then return false
  let a ← v.baseMagnitude
  let b ← w.baseMagnitude
  let a ← Arithmetic.toFloat a
  let b ← Arithmetic.toFloat b
  floatsClose a b (← Arithmetic.toFloat relative) (← Arithmetic.toFloat absolute)

end Quantity

end Metrology
