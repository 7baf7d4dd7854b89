import Metrology.Number.Basic
import Metrology.Quantity

namespace Metrology

/-- Whatever may be handed to an operation. A magnitude or a factor is meant to be a number. Nothing
checks that it is one, and so the other operands take part as far as their own operations go. -/
inductive Operand
  | null
  | bool (b : Bool)
  | text (s : String)
  | number (n : Number)
  | list (items : List Operand)
  | tuple (items : List Operand)
  | dimension (d : Dimension)
  | unit (u : MeasureUnit Operand)
  | quantity (v : Quantity Operand)

namespace Operand

instance : Inhabited Operand := ⟨null⟩

instance : Coe Number Operand := ⟨number⟩

def int (n : Int) : Operand :=
  number (.int n)

/-- A number, for which a truth value may stand: it counts as zero or one. -/
def number? : Operand → Option Number
  | bool b => some (.int (if b then 1 else 0))
  | number n => some n
  | _ => none

/-- An integer, for which a truth value may stand. -/
def integer? : Operand → Option Int
  | bool b => some (if b then 1 else 0)
  | number (.int n) => some n
  | _ => none

/-- An integer to count with. -/
def index (x : Operand) : Except Failure Int :=
  match x.integer? with
  | some k => .ok k
  | none => .error .unsupported

def asText (failure : Operand → Failure) : Operand → Except Failure String
  | text s => .ok s
  | x => .error (failure x)

def kindName : Operand → String
  | null => "NoneType"
  | bool _ => "bool"
  | text _ => "str"
  | number n => n.kindName
  | list _ => "list"
  | tuple _ => "tuple"
  | dimension _ => "Dimension"
  | unit _ => "Unit"
  | quantity _ => "Value"

/-- Whether the operand takes part in arithmetic and in order. -/
def isScalar : Operand → Bool
  | quantity _ => true
  | x => x.number?.isSome

/-- What counts as true: all but nothing, zeros, and what is empty. -/
def isTrue : Operand → Bool
  | null => false
  | text s => s != ""
  | list items | tuple items => !items.isEmpty
  | x =>
    match x.number? with
    | some n => !n.isZero
    | none => true

/-- The failure to find something under a name: a dimension tells the name. -/
def missing (name : String) : Operand → Failure
  | dimension _ => .unknownAttribute name
  | _ => .missingAttribute

def asUnit (name : String) : Operand → Except Failure (MeasureUnit Operand)
  | unit u => .ok u
  | x => .error (x.missing name)

def asQuantity (name : String) : Operand → Except Failure (Quantity Operand)
  | quantity v => .ok v
  | x => .error (x.missing name)

def dimension? : Operand → Except Failure Dimension
  | unit u => .ok u.dimension
  | quantity v => .ok v.dimension
  | x => .error (x.missing "dimension")

def factor? (x : Operand) : Except Failure Operand :=
  (x.asUnit "factor").map (·.factor)

/-- The unit to combine with. A quantity has a dimension but no factor. -/
def factored (x : Operand) : Except Failure (MeasureUnit Operand) := do
  let d ← x.dimension?
  return ⟨d, ← x.factor?⟩

mutual

/-- How deep units and quantities are nested in magnitudes and factors. -/
def depth : Operand → Nat
  | list items | tuple items => depthAll items
  | unit ⟨_, factor⟩ => factor.depth + 1
  | quantity ⟨magnitude, ⟨_, factor⟩⟩ => max magnitude.depth factor.depth + 1
  | _ => 0

def depthAll : List Operand → Nat
  | [] => 0
  | x :: rest => max x.depth (depthAll rest)

end

end Operand

end Metrology
