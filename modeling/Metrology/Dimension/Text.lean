import Metrology.Dimension.Named
import Metrology.Number.Text

namespace Metrology.Dimension

/-- The axes of an order that the dimension has exponents on. -/
def support (d : Dimension) (order : List Axis) : List Axis :=
  order.filter (d.exponent · != 0)

def factorText (d : Dimension) (axis : Axis) : Except Failure String :=
  (superscriptText (d.exponent axis)).map fun power => "[" ++ axis.label ++ "]" ++ power

/-- All factors in words, mass first. -/
def verbose (d : Dimension) : Except Failure String :=
  ((d.support Axis.written).mapM d.factorText).map String.join

/-- The display name, or else the factors in words. -/
def name (d : Dimension) : Except Failure String :=
  if d.isDimensionless then .ok "Dimensionless"
  else
    match Physics.names.lookup d with
    | some known => .ok known
    | none => d.verbose

def exponentText (d : Dimension) (axis : Axis) : Except Failure String :=
  (integerText (d.exponent axis)).map fun power => axis.name ++ "=" ++ power

def shown (d : Dimension) : Except Failure String :=
  ((d.support Axis.all).mapM d.exponentText).map fun parts =>
    "Dimension(" ++ ", ".intercalate parts ++ ")"

/-- The text in the form that a format asks for: nothing for words, `#` for the name. -/
def format (d : Dimension) (form : String) : Except Failure String :=
  if form = "" then d.verbose
  else if form = "#" then d.name
  else .error .unknownFormat

end Metrology.Dimension
