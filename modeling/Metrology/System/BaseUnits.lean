import Metrology.Dimension.Text
import Metrology.Text.Quoted

namespace Metrology

/-- One symbol for each axis, of a unit with factor one. -/
structure BaseUnits where
  length : String
  time : String
  mass : String
  current : String
  temperature : String
  substanceAmount : String
  luminousIntensity : String
  deriving DecidableEq

namespace BaseUnits

def symbol (base : BaseUnits) : Axis → String
  | .length => base.length
  | .time => base.time
  | .mass => base.mass
  | .current => base.current
  | .temperature => base.temperature
  | .substanceAmount => base.substanceAmount
  | .luminousIntensity => base.luminousIntensity

def ofSymbols (f : Axis → String) : BaseUnits :=
  ⟨f .length, f .time, f .mass, f .current, f .temperature, f .substanceAmount,
    f .luminousIntensity⟩

/-- Metre, second, kilogram, ampere, kelvin, mole and candela. -/
def si : BaseUnits :=
  ⟨"m", "s", "kg", "A", "K", "mol", "cd"⟩

def items (base : BaseUnits) : List (String × Dimension) :=
  Axis.all.map fun axis => (base.symbol axis, .power axis 1)

def factorText (base : BaseUnits) (d : Dimension) (axis : Axis) : Except Failure String :=
  (superscriptText (d.exponent axis)).map (base.symbol axis ++ ·)

/-- A dimension as a product of base units: symbols with superscript exponents and no blanks. -/
def product (base : BaseUnits) (d : Dimension) : Except Failure String :=
  ((d.support Axis.written).mapM (base.factorText d)).map String.join

def shown (base : BaseUnits) : String :=
  "BaseUnits("
    ++ ", ".intercalate (Axis.all.map fun axis =>
      axis.name ++ "=" ++ Text.quoted (base.symbol axis))
    ++ ")"

end BaseUnits

end Metrology
