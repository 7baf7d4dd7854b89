import Metrology.Expression.Meaning
import Metrology.System.Basic

namespace Metrology.UnitSystem

/-- The unit that an expression stands for in the system. -/
def unit (s : UnitSystem) (text : String) : Except Failure (MeasureUnit Operand) :=
  Expression.unit s.lookup s.identity text

/-- A quantity text: a literal, and after a blank a unit expression. A literal that is no number
is reported before the expression is read. -/
def value (s : UnitSystem) (text : String) : Except Failure (Quantity Operand) :=
  match Text.firstWord? text.toList with
  | none => .error (.malformedValue text .empty)
  | some (word, rest) =>
    match s.number.read (String.ofList word) with
    | .error _ => .error (.malformedValue text .literal)
    | .ok n => (s.unit (String.ofList rest)).map fun u => ⟨n, u⟩

/-- Nothing in place of a failure of the text. Other failures stay. -/
def forgive {α : Type} : Except Failure α → Except Failure (Option α)
  | .ok a => .ok (some a)
  | .error failure => if failure.isParse then .ok none else .error failure

def unit? (s : UnitSystem) (text : String) : Except Failure (Option (MeasureUnit Operand)) :=
  forgive (s.unit text)

def value? (s : UnitSystem) (text : String) : Except Failure (Option (Quantity Operand)) :=
  forgive (s.value text)

/-- The quantity in the unit of an expression. -/
def convert (s : UnitSystem) (v : Quantity Operand) (text : String) :
    Except Failure (Quantity Operand) := do
  v.cast (← s.unit text)

end Metrology.UnitSystem
