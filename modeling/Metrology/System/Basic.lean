import Metrology.Expression.Scanner
import Metrology.Number.Kind
import Metrology.Operand.Basic
import Metrology.System.BaseUnits
import Metrology.System.Registry

namespace Metrology

/-- The registry is for units. Nothing checks that an entry is one. -/
structure UnitSystem where
  base : BaseUnits
  number : NumberKind
  registry : Registry Operand := {}

/-- The unit of a dimension with factor one among numbers of a kind. -/
def MeasureUnit.base (d : Dimension) (number : NumberKind) : MeasureUnit Operand :=
  ⟨d, number.one⟩

/-- The unit of no dimension and factor one, among floats. -/
def MeasureUnit.dimensionless : MeasureUnit Operand :=
  .base 0 .float

namespace UnitSystem

/-- The unit of an empty expression. -/
def identity (s : UnitSystem) : MeasureUnit Operand :=
  .base 0 s.number

/-- The entry of a symbol, if it has one. -/
def get? (s : UnitSystem) (symbol : String) : Option Operand :=
  s.registry.find? (symbolKey symbol)

def contains (s : UnitSystem) (symbol : String) : Bool :=
  (s.get? symbol).isSome

/-- The entry that a registration of the symbol replaces. -/
def replaced (s : UnitSystem) (symbol : String) : Operand :=
  (s.get? symbol).getD .null

/-- Binds a symbol in place of the entry that it had. -/
def register (s : UnitSystem) (symbol : String) (entry : Operand) : UnitSystem :=
  { s with registry := s.registry.insert (symbolKey symbol) entry }

/-- What a symbol is bound to. The failure names the symbol as it was spelled. -/
def lookup (s : UnitSystem) (symbol : String) : Except Failure Operand :=
  match s.get? symbol with
  | some entry => .ok entry
  | none => .error (.unknownUnit symbol)

theorem get?_register (s : UnitSystem) (symbol other : String) (entry : Operand) :
    (s.register symbol entry).get? other =
      if symbolKey other = symbolKey symbol then some entry else s.get? other :=
  s.registry.find?_insert (symbolKey symbol) (symbolKey other) entry

/-- A system with the seven base units. -/
def withBase (base : BaseUnits) (number : NumberKind) : UnitSystem :=
  base.items.foldl (fun s item => s.register item.1 (.unit (.base item.2 number)))
    ⟨base, number, {}⟩

def shown (s : UnitSystem) : String :=
  "UnitSystem(base=" ++ s.base.shown ++ ", units=" ++ toString s.registry.size ++ ")"

end UnitSystem

end Metrology
