import Metrology.Failure.Message
import Metrology.System.Reading
import Metrology.System.Rendering

namespace Metrology

/-- What operations on a system note beside their results. -/
inductive Event
  | parsedExpression (text : String) (terms : Nat)
  | rejectedExpression (text : String) (failure : Failure)
  | rejectedValue (text : String) (failure : Failure)
  | replacedUnit (key : String) (previous entry : Operand)
  | noRegisteredUnit (d : Dimension)

namespace Event

inductive Source
  | parser
  | registry
  | formatter

def source : Event → Source
  | parsedExpression .. => .parser
  | noRegisteredUnit .. => .formatter
  | _ => .registry

def message : Event → Except Failure String
  | parsedExpression text terms =>
    .ok ("Parsed unit expression " ++ Text.quoted text ++ " into " ++ toString terms ++ " term(s)")
  | rejectedExpression text failure =>
    .ok ("Bad unit expression " ++ Text.quoted text ++ ": " ++ failure.message?.getD "")
  | rejectedValue text failure =>
    .ok ("Bad value " ++ Text.quoted text ++ ": " ++ failure.message?.getD "")
  | replacedUnit key previous entry => do
    return "Replacing unit " ++ Text.quoted key ++ ": " ++ (← previous.shown) ++ " -> "
      ++ (← entry.shown)
  | noRegisteredUnit d => do
    return "No registered unit for " ++ (← d.shown) ++ "; falling back to base units"

/-- A unit that is read is noted, with the number of its terms. -/
def ofReading {α : Type} (text : String) : Except Failure α → List Event
  | .ok _ => [.parsedExpression text (Expression.scan text).terms.length]
  | .error _ => []

end Event

namespace UnitSystem

def unitEvents (s : UnitSystem) (text : String) : List Event :=
  Event.ofReading text (s.unit text)

def valueEvents (s : UnitSystem) (text : String) : List Event :=
  match s.value text, Text.firstWord? text.toList with
  | .ok _, some (_, rest) => s.unitEvents (String.ofList rest)
  | _, _ => []

def rejection {α : Type} (note : Failure → Event) : Except Failure α → List Event
  | .error failure => if failure.isParse then [note failure] else []
  | .ok _ => []

def unitEvents? (s : UnitSystem) (text : String) : List Event :=
  s.unitEvents text ++ rejection (.rejectedExpression text) (s.unit text)

def valueEvents? (s : UnitSystem) (text : String) : List Event :=
  s.valueEvents text ++ rejection (.rejectedValue text) (s.value text)

def registerEvents (s : UnitSystem) (symbol : String) (entry : Operand) : List Event :=
  match s.replaced symbol with
  | .null => []
  | previous => [.replacedUnit (symbolKey symbol) previous entry]

/-- Base units that share a symbol replace one another. -/
def withBaseEvents (base : BaseUnits) (number : NumberKind) : List Event :=
  (base.items.foldl
    (fun (state : UnitSystem × List Event) item =>
      let entry : Operand := .unit (.base item.2 number)
      (state.1.register item.1 entry, state.2 ++ state.1.registerEvents item.1 entry))
    (⟨base, number, {}⟩, [])).2

/-- A unit that no entry is compared with is noted by its dimension. -/
def renderEvents (s : UnitSystem) (unit : Operand) : List Event :=
  match s.bestUnit unit, unit.dimension? with
  | .ok none, .ok d => [.noRegisteredUnit d]
  | _, _ => []

end UnitSystem

end Metrology
