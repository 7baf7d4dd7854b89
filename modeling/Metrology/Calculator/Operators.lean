import Metrology.Operand.Arithmetic

namespace Metrology

inductive Relation
  | lt
  | le
  | gt
  | ge
  deriving DecidableEq

/-- Whether a relation holds between two that compare like this. Between two that do not compare
none holds. -/
def Relation.holds : Relation → Option Ordering → Bool
  | _, none => false
  | lt, some o => o.isLT
  | le, some o => o.isLE
  | gt, some o => o.isGT
  | ge, some o => o.isGE

inductive Operator
  | add
  | sub
  | mul
  | div
  | pow
  | eq
  | ne
  | relation (r : Relation)
  deriving DecidableEq

def Operator.ofSymbol? : String → Option Operator
  | "+" => some add
  | "-" => some sub
  | "*" => some mul
  | "/" => some div
  | "**" => some pow
  | "==" => some eq
  | "!=" => some ne
  | "<" => some (relation .lt)
  | "<=" => some (relation .le)
  | ">" => some (relation .gt)
  | ">=" => some (relation .ge)
  | _ => none

namespace Operand

/-- Between other operands than numbers there is no power. A fraction is taken as a float before
the other one is refused, unless it is a whole exponent. -/
def refusePower (a k : Operand) : Except Failure Operand := do
  match a, k with
  | number (.ratio q), _ => do
    let _ ← Number.floatOfRat q
    throw .unsupported
  | _, number (.ratio r) => do
    if r.den ≠ 1 then
      let _ ← Number.floatOfRat r
    throw .unsupported
  | _, _ => throw .unsupported

/-- Units and quantities are raised to integers, numbers to numbers. -/
def raise (a k : Operand) : Except Failure Operand :=
  match a with
  | unit _ | quantity _ => do Arithmetic.pow a (← k.index)
  | _ =>
    match a.number?, k.number? with
    | some m, some n => (m.power n).map number
    | _, _ => refusePower a k

def apply : Operator → Operand → Operand → Except Failure Operand
  | .add, a, b => Arithmetic.add a b
  | .sub, a, b => Arithmetic.sub a b
  | .mul, a, b => Arithmetic.mul a b
  | .div, a, b => Arithmetic.div a b
  | .pow, a, b => a.raise b
  | .eq, a, b => (Arithmetic.equal a b).map bool
  | .ne, a, b => (Arithmetic.equal a b).map fun same => bool !same
  | .relation r, a, b => (Arithmetic.order a b).map fun o => bool (r.holds o)

/-- The operand itself, a number rounded as its kind asks for. -/
def plus : Operand → Except Failure Operand
  | quantity v => .ok (quantity v)
  | x => lift₁ Number.plus x

def applySign (symbol : String) (x : Operand) : Except Failure Operand :=
  if symbol = "-" then Arithmetic.neg x
  else if symbol = "+" then x.plus
  else Arithmetic.abs x

end Operand

end Metrology
