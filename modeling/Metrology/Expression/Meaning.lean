import Metrology.Expression.Scanner
import Metrology.Operand.Arithmetic

namespace Metrology.Expression

/-- A table of symbols as they are spelled. The last entry of a symbol counts. -/
def ofTable (entries : List (String × Operand)) (symbol : String) : Except Failure Operand :=
  match entries.reverse.lookup symbol with
  | some entry => .ok entry
  | none => .error (.unknownUnit symbol)

/-- Brings one term into a product. A symbol may be bound to something else than a unit, which
cannot be raised to a power. -/
def multiply (lookup : String → Except Failure Operand) (product : MeasureUnit Operand)
    (term : Term) : Except Failure (MeasureUnit Operand) := do
  let unit ← (← lookup term.symbol).asUnit "power"
  product.compose (← unit.power term.signedExponent)

/-- The product of the terms, from the left on, starting at the unit of an empty expression. -/
def product (lookup : String → Except Failure Operand) (identity : MeasureUnit Operand)
    (terms : List Term) : Except Failure (MeasureUnit Operand) :=
  terms.foldlM (multiply lookup) identity

/-- An expression is scanned as a whole before its first symbol is looked up. -/
def unit (lookup : String → Except Failure Operand) (identity : MeasureUnit Operand)
    (text : String) : Except Failure (MeasureUnit Operand) := do
  product lookup identity (← terms text)

/-- The same from whatever stands for an empty expression. Without terms nothing is asked of it. -/
def unitFrom (lookup : String → Except Failure Operand) (identity : Operand) (text : String) :
    Except Failure Operand := do
  match ← terms text with
  | [] => return identity
  | ts => return .unit (← product lookup (← identity.asUnit "compose") ts)

end Metrology.Expression
