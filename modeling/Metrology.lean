import Metrology.Arithmetic
import Metrology.Calculator.Members
import Metrology.Calculator.Operators
import Metrology.Catalogue
import Metrology.Dimension.Basic
import Metrology.Dimension.Named
import Metrology.Dimension.Text
import Metrology.Expression.Meaning
import Metrology.Expression.Scanner
import Metrology.Failure
import Metrology.Failure.Message
import Metrology.MeasureUnit
import Metrology.Number.Basic
import Metrology.Number.Binary64
import Metrology.Number.Decimal.Arithmetic
import Metrology.Number.Decimal.Basic
import Metrology.Number.Decimal.Exponential
import Metrology.Number.Decimal.Power
import Metrology.Number.FloatText
import Metrology.Number.Kind
import Metrology.Number.Literal
import Metrology.Number.Order
import Metrology.Number.Rounding
import Metrology.Number.Shortest
import Metrology.Number.Text
import Metrology.Operand.Arithmetic
import Metrology.Operand.Basic
import Metrology.Operand.Dimension
import Metrology.Operand.Text
import Metrology.Proofs.Dimension.Layout
import Metrology.Proofs.Dimension.Writable
import Metrology.Proofs.Expression.Buffers
import Metrology.Proofs.Expression.Juxtaposition
import Metrology.Proofs.Expression.Lexeme
import Metrology.Proofs.Expression.Meaning
import Metrology.Proofs.Expression.Moves
import Metrology.Proofs.Expression.Outcome
import Metrology.Proofs.Expression.Padding
import Metrology.Proofs.Expression.Powers
import Metrology.Proofs.Expression.Product
import Metrology.Proofs.Expression.Progress
import Metrology.Proofs.Expression.Reading
import Metrology.Proofs.Expression.Respelling
import Metrology.Proofs.Expression.Scanning
import Metrology.Proofs.Expression.Slashes
import Metrology.Proofs.Expression.Spelling
import Metrology.Proofs.Expression.Symbols
import Metrology.Proofs.MeasureUnit
import Metrology.Proofs.MeasureUnit.Group
import Metrology.Proofs.MeasureUnit.Laws
import Metrology.Proofs.MeasureUnit.Order
import Metrology.Proofs.Number.Binary64
import Metrology.Proofs.Number.Decimal.Differences
import Metrology.Proofs.Number.Decimal.Operations
import Metrology.Proofs.Number.Decimal.Quotients
import Metrology.Proofs.Number.Decimal.Rounding
import Metrology.Proofs.Number.Decimal.TenPowers
import Metrology.Proofs.Number.DecimalText
import Metrology.Proofs.Number.Digits
import Metrology.Proofs.Number.Display
import Metrology.Proofs.Number.Excess
import Metrology.Proofs.Number.Failures
import Metrology.Proofs.Number.IntegerText
import Metrology.Proofs.Number.Ratio
import Metrology.Proofs.Number.RatioText
import Metrology.Proofs.Number.SuperscriptText
import Metrology.Proofs.Number.Value
import Metrology.Proofs.Operand.Failures
import Metrology.Proofs.Operand.Mismatch
import Metrology.Proofs.Quantity.Calculation
import Metrology.Proofs.Quantity.Exact
import Metrology.Proofs.Quantity.Rescaling
import Metrology.Proofs.System.Assembly
import Metrology.Proofs.System.BaseUnits
import Metrology.Proofs.System.Closest
import Metrology.Proofs.System.DecimalRoundTrip
import Metrology.Proofs.System.Decimals
import Metrology.Proofs.System.Display
import Metrology.Proofs.System.Extension
import Metrology.Proofs.System.Juxtaposition
import Metrology.Proofs.System.Layout
import Metrology.Proofs.System.Meaning
import Metrology.Proofs.System.Parsing
import Metrology.Proofs.System.Preset
import Metrology.Proofs.System.Registrations
import Metrology.Proofs.System.RoundTrip
import Metrology.Proofs.System.Symbols
import Metrology.Proofs.System.TenPowers
import Metrology.Proofs.Text.Canonical.Composition
import Metrology.Proofs.Text.Canonical.Decomposition
import Metrology.Proofs.Text.Canonical.Division
import Metrology.Proofs.Text.Canonical.Letters
import Metrology.Proofs.Text.Canonical.Order
import Metrology.Proofs.Text.Canonical.Parts
import Metrology.Proofs.Text.Classes
import Metrology.Proofs.Text.Superscript
import Metrology.Proofs.Text.Words
import Metrology.Proofs.Traversal
import Metrology.Quantity
import Metrology.Report
import Metrology.Sorting
import Metrology.System.BaseUnits
import Metrology.System.Basic
import Metrology.System.Journal
import Metrology.System.Preset
import Metrology.System.Reading
import Metrology.System.Registry
import Metrology.System.Rendering
import Metrology.Text.Canonical
import Metrology.Text.Canonical.Composites
import Metrology.Text.Canonical.Equivalents
import Metrology.Text.Canonical.Marks
import Metrology.Text.Character
import Metrology.Text.Quoted
