import Metrology.Dimension.Basic

namespace Metrology

/-- What is wrong with a unit expression that does not scan. -/
inductive SyntaxFault
  | unexpected (c : Char)
  | bareNumber (digits : String)
  | invertedNumber
  | danglingSlash
  deriving DecidableEq

/-- What is wrong with a quantity text whose number cannot be told. -/
inductive ValueFault
  | empty
  | literal
  deriving DecidableEq

inductive Failure
  | expression (text : String) (fault : SyntaxFault)
  | unknownUnit (symbol : String)
  | malformedExponent (symbol text : String)
  | malformedValue (text : String) (fault : ValueFault)
  | dimensionMismatch (operation : String) (left right : Dimension)
  /-- Not seven exponents. -/
  | axisCount
  | unknownAxis (name : String)
  /-- A dimension scaled by what is not an integer. -/
  | scaleKind (kind : String)
  | unknownFormat
  /-- Something other than one, divided by a unit. -/
  | notReciprocal (shown : String)
  /-- A quantity compared with what is none. -/
  | incomparable (kind : String)
  /-- A name that a dimension has no answer to. -/
  | unknownAttribute (name : String)
  | unknownExport (name : String)
  | missingAttribute
  /-- An operation that is not defined between such operands. -/
  | unsupported
  /-- A text or a number outside what an operation takes. -/
  | badValue
  | divisionByZero
  /-- A result, or a conversion, that is too large for its kind. -/
  | overflow
  | decimalInvalid
  | decimalDivisionByZero
  | decimalOverflow
  deriving DecidableEq

/-- Whether the failure is of a text that was read as a unit or a quantity. -/
def Failure.isParse : Failure → Bool
  | expression .. | unknownUnit .. | malformedExponent .. | malformedValue .. => true
  | _ => false

end Metrology
