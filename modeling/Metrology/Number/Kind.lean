import Metrology.Number.Basic
import Metrology.Number.Literal

namespace Metrology

/-- The kinds of numbers that a system of units computes in, each with its own literals. -/
inductive NumberKind
  | float
  | ratio
  | decimal
  | int
  deriving DecidableEq

namespace NumberKind

def one : NumberKind → Number
  | float => .float 1
  | ratio => .ratio 1
  | decimal => .decimal (.finite false 1 0)
  | int => .int 1

/-- The number that a literal stands for. -/
def read : NumberKind → String → Except Failure Number
  | float, text =>
    match Literal.float? text with
    | some x => .ok (.float x)
    | none => .error .badValue
  | ratio, text => (Literal.ratio text).map .ratio
  | decimal, text =>
    match Literal.decimal? text with
    | some d => .ok (.decimal d)
    | none => .error .decimalInvalid
  | int, text =>
    match Literal.int? text with
    | some n => .ok (.int n)
    | none => .error .badValue

def ofName? : String → Option NumberKind
  | "float" => some float
  | "fraction" => some ratio
  | "decimal" => some decimal
  | "int" => some int
  | _ => none

end NumberKind

end Metrology
