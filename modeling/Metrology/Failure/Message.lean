import Metrology.Dimension.Text
import Metrology.Failure
import Metrology.Text.Quoted

namespace Metrology

/-- The failure of an operation that takes one dimension and got two. Without a text for both of
them there is no message, and the failure is another one. -/
def mismatch (operation : String) (left right : Dimension) : Failure :=
  match left.name, right.name with
  | .ok _, .ok _ => .dimensionMismatch operation left right
  | _, _ => .badValue

def SyntaxFault.message (text : String) : SyntaxFault → String
  | unexpected c =>
    "Unexpected character " ++ Text.quoted (String.ofList [c]) ++ " in unit expression "
      ++ Text.quoted text
  | bareNumber digits =>
    "Number " ++ Text.quoted digits ++ " without a unit symbol in " ++ Text.quoted text
  | invertedNumber => "Cannot invert a bare number in " ++ Text.quoted text
  | danglingSlash => "Dangling '/' at end of unit expression " ++ Text.quoted text

def ValueFault.reason : ValueFault → String
  | empty => "empty string"
  | literal => "missing or malformed numeric literal"

def unknownUnitText (symbol : String) : String :=
  "Unknown unit symbol: " ++ symbol

def malformedExponentText (symbol text : String) : String :=
  "Exponent " ++ text ++ " of unit " ++ symbol ++ " is not an integer"

def malformedValueText (text reason : String) : String :=
  "Cannot parse value " ++ text ++ ": " ++ reason

def mismatchText (operation left right : String) : String :=
  operation ++ " requires same dimensions, got " ++ left ++ " and " ++ right

/-- What is reported in words. Some failures have nothing to say beyond their kind. -/
def Failure.message? : Failure → Option String
  | expression text fault => some (fault.message text)
  | unknownUnit symbol => some (unknownUnitText (Text.quoted symbol))
  | malformedExponent symbol text =>
    some (malformedExponentText (Text.quoted symbol) (Text.quoted text))
  | malformedValue text fault => some (malformedValueText (Text.quoted text) fault.reason)
  | dimensionMismatch operation left right =>
    match left.name, right.name with
    | .ok l, .ok r => some (mismatchText operation l r)
    | _, _ => none
  | axisCount =>
    some ("Dimension must have length 7 (length, time, mass, current, temperature, "
      ++ "substance_amount, luminous_intensity).")
  | unknownAxis name => some ("Unknown dimension axis " ++ Text.quoted name)
  | scaleKind kind => some ("Dimension exponents scale by integers only, got " ++ kind)
  | unknownFormat => some "Unknown format spec for Dimension; use '' or '#'"
  | notReciprocal shown =>
    some ("Invalid operation: cannot divide " ++ shown
      ++ " by a Unit. Only 1/unit (reciprocal) is supported.")
  | incomparable kind => some ("Cannot compare Value with type " ++ kind)
  | unknownAttribute name => some name
  | unknownExport name => some ("module 'unitmaths' has no attribute " ++ Text.quoted name)
  | missingAttribute | unsupported | badValue | divisionByZero | overflow | decimalInvalid
  | decimalDivisionByZero | decimalOverflow => none

end Metrology
