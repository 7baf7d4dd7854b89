import Metrology.Failure.Message
import Metrology.Operand.Text

namespace Metrology

/-- A failure told under its public name, of whatever operands it is said to be about. -/
structure Report where
  text : String
  attributes : List (String × Operand) := []

namespace Report

/-- The public names of failures. -/
inductive Kind
  | failure
  | unreadable
  | unknownUnit
  | malformedExponent
  | malformedValue
  | dimensionMismatch
  deriving DecidableEq

def kinds : List (String × Kind) := [
  ("UnitsError", .failure),
  ("UnitParseError", .unreadable),
  ("UnknownUnit", .unknownUnit),
  ("MalformedExponent", .malformedExponent),
  ("MalformedValue", .malformedValue),
  ("DimensionMismatch", .dimensionMismatch)]

def Kind.ofName? (name : String) : Option Kind :=
  kinds.lookup name

/-- Whether it is put down to a text that cannot be read. Such a text is a value that is not
taken. -/
def Kind.blamesText : Kind → Bool
  | unreadable | unknownUnit | malformedExponent | malformedValue => true
  | failure | dimensionMismatch => false

/-- Whether it is put down to operands that do not go together. -/
def Kind.blamesOperands (kind : Kind) : Bool :=
  kind = dimensionMismatch

/-- The plainest reports say what they are given. -/
def saying : List Operand → Except Failure Report
  | [] => .ok { text := "" }
  | [x] => do return { text := (← x.plain) }
  | items => do return { text := (← (Operand.tuple items).shown) }

def make : Kind → List Operand → Except Failure Report
  | .failure, items | .unreadable, items => saying items
  | .unknownUnit, [symbol] => do
    return ⟨unknownUnitText (← symbol.shown), [("symbol", symbol)]⟩
  | .malformedExponent, [symbol, text] => do
    let shown ← text.shown
    return ⟨malformedExponentText (← symbol.shown) shown, [("symbol", symbol), ("text", text)]⟩
  | .malformedValue, [text] => do
    return ⟨malformedValueText (← text.shown) ValueFault.literal.reason, [("text", text)]⟩
  | .malformedValue, [text, reason] => do
    return ⟨malformedValueText (← text.shown) (← reason.plain), [("text", text)]⟩
  | .dimensionMismatch, [operation, left, right] => do
    return ⟨mismatchText (← operation.plain) (← left.named) (← right.named),
      [("operation", operation), ("left", left), ("right", right)]⟩
  | _, _ => .error .unsupported

end Report

end Metrology
