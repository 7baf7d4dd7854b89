import Metrology.Operand.Arithmetic
import Metrology.Operand.Dimension
import Metrology.Operand.Text
import Metrology.Sorting
import Metrology.System.Journal

namespace Metrology.Operand

def compose (a b : Operand) : Except Failure Operand := do
  let u ← a.asUnit "compose"
  return unit (← u.compose (← b.factored))

def invertCombine (a b : Operand) : Except Failure Operand := do
  let u ← a.asUnit "invert_combine"
  return unit (← u.invertCombine (← b.factored))

def power (a k : Operand) : Except Failure Operand := do
  let u ← a.asUnit "power"
  return unit (← u.power (← k.index))

def partialCompare (a b : Operand) : Except Failure (Option Ordering) := do
  let u ← a.asUnit "partial_compare"
  if u.dimension ≠ (← b.dimension?) then return none
  u.partialCompare (← b.factored)

def isDimensionless : Operand → Except Failure Bool
  | unit u => .ok u.isDimensionless
  | dimension d => .ok d.isDimensionless
  | _ => .error .missingAttribute

/-- What an operand tells under a name. -/
def member (x : Operand) (name : String) : Except Failure Operand :=
  match x with
  | dimension d => dimensionAttribute d name
  | unit u =>
    match name with
    | "dimension" => .ok (dimension u.dimension)
    | "factor" => .ok u.factor
    | "is_dimensionless" => .ok (bool u.isDimensionless)
    | _ => .error .missingAttribute
  | quantity v =>
    match name with
    | "magnitude" => .ok v.magnitude
    | "unit" => .ok (unit v.unit)
    | "dimension" => .ok (dimension v.dimension)
    | "base_magnitude" => v.baseMagnitude
    | _ => .error .missingAttribute
  | _ => .error .missingAttribute

/-- The text in the form that a format asks for. Only dimensions have another than the plain one
and the one in the place of a name. -/
def formatted (x : Operand) (form : String) : Except Failure String :=
  match x with
  | dimension d => d.format form
  | _ =>
    if form = "" then x.plain
    else if form = "#" then x.named
    else do
      let _ ← x.named
      throw .badValue

def baseMagnitude (x : Operand) : Except Failure Operand := do
  (← x.asQuantity "base_magnitude").baseMagnitude

def cast (x target : Operand) : Except Failure Operand := do
  let v ← x.asQuantity "cast"
  let d ← target.dimension?
  if d ≠ v.dimension then throw (mismatch "Cast" v.dimension d)
  return quantity (← v.cast (← target.factored))

/-- A quantity in the unit of an expression. What is none is refused before the expression is
read. -/
def convert (s : UnitSystem) (x text : Operand) : Except Failure Operand := do
  let v ← x.asQuantity "cast"
  let text ← text.asText fun _ => .unsupported
  return quantity (← s.convert v text)

def convertEvents (s : UnitSystem) (x text : Operand) : List Event :=
  match x, text with
  | quantity _, .text t => s.unitEvents t
  | _, _ => []

/-- Nothing but a quantity is close to a quantity. -/
def isClose (x other relative absolute : Operand) : Except Failure Bool := do
  let v ← x.asQuantity "is_close"
  match other with
  | quantity w => v.isClose w relative absolute
  | _ => return false

/-- The items of a sequence. -/
def items? : Operand → Except Failure (List Operand)
  | list items | tuple items => .ok items
  | text s => .ok (s.toList.map fun c => text (String.ofList [c]))
  | dimension d => .ok (d.exponents.map int)
  | _ => .error .unsupported

def sorted (x : Operand) : Except Failure Operand := do
  return list (← Sorting.sort Arithmetic.lt (← x.items?))

/-- An exponent behind a slash. -/
def signedExponent (exponent inverted : Operand) : Except Failure Operand :=
  if inverted.isTrue then Arithmetic.neg exponent else .ok exponent

end Metrology.Operand
