import Metrology.Operand.Arithmetic
import Metrology.System.Basic

namespace Metrology.UnitSystem

/-- A candidate for display: its symbol, its unit, and how far its factor is off. -/
structure Candidate where
  symbol : String
  unit : MeasureUnit Operand
  distance : Operand

/-- The better of the best candidate so far and the next entry. The earlier one wins a tie. What is
asked of the target is asked only when there is an entry to compare it with. -/
def closer (target : Operand) (best : Option Candidate) (entry : String × Operand) :
    Except Failure (Option Candidate) := do
  let d ← entry.2.dimension?
  if d ≠ (← target.dimension?) then return best
  let factor ← entry.2.factor?
  let distance ← Arithmetic.abs (← Arithmetic.sub factor (← target.factor?))
  let candidate : Candidate := ⟨entry.1, ⟨d, factor⟩, distance⟩
  match best with
  | none => return some candidate
  | some b => if ← Arithmetic.lt distance b.distance then return some candidate else return best

/-- The registered unit to display a unit in, if there is one of its dimension. -/
def bestUnit (s : UnitSystem) (target : Operand) :
    Except Failure (Option (String × MeasureUnit Operand)) :=
  (s.registry.entries.foldlM (closer target) none).map fun best =>
    best.map fun c => (c.symbol, c.unit)

/-- The text in base units. A number of no dimension stands alone. -/
def renderInBase (s : UnitSystem) (magnitude unit : Operand) : Except Failure String := do
  let suffix ← s.base.product (← unit.dimension?)
  let number ← (← Arithmetic.mul magnitude (← unit.factor?)).displayed
  return if suffix = "" then number else number ++ " " ++ suffix

/-- The text of a magnitude in a unit. -/
def renderIn (s : UnitSystem) (magnitude unit : Operand) : Except Failure String := do
  match ← s.bestUnit unit with
  | some (symbol, best) =>
    let ratio ← Arithmetic.div (← unit.factor?) best.factor
    return (← (← Arithmetic.mul magnitude ratio).displayed) ++ " " ++ symbol
  | none => s.renderInBase magnitude unit

/-- A quantity is shown in the registered unit of its dimension whose factor is closest to its own,
or else in base units. -/
def render (s : UnitSystem) (v : Quantity Operand) : Except Failure String :=
  s.renderIn v.magnitude (.unit v.unit)

/-- One of a unit, as a text. -/
def renderUnit (s : UnitSystem) (unit : Operand) : Except Failure String :=
  s.renderIn s.number.one unit

end Metrology.UnitSystem
