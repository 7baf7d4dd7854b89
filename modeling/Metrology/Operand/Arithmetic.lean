import Metrology.Number.Order
import Metrology.Operand.Dimension
import Metrology.Operand.Text

namespace Metrology.Operand

def lift (f : Number → Number → Except Failure Number) (a b : Operand) : Except Failure Operand :=
  match a.number?, b.number? with
  | some m, some n => (f m n).map number
  | _, _ => .error .unsupported

def lift₁ (f : Number → Except Failure Number) (a : Operand) : Except Failure Operand :=
  match a.number? with
  | some n => (f n).map number
  | none => .error .unsupported

/-- More than this many items are too many. -/
def widest : Nat := pow2 32

/-- How often to repeat something of so many items. Counts have sixty-three bits and a sign. -/
def count (size : Nat) (a : Operand) : Except Failure Nat := do
  let k ← a.index
  if k < -pow2 63 ∨ pow2 63 ≤ k then throw .overflow
  if size = 0 then return 0
  if widest < size * k.toNat then throw .overflow
  return k.toNat

def repeated (items : List Operand) (times : Operand) : Except Failure (List Operand) :=
  (count items.length times).map fun n => (List.replicate n items).flatten

def repeatedText (s : String) (times : Operand) : Except Failure Operand :=
  (count s.length times).map fun n => text (String.join (List.replicate n s))

/-- Whether the operand is the number one. -/
def isOne (a : Operand) : Except Failure Bool :=
  match a.number? with
  | some n => n.equal (.int 1)
  | none => .ok false

section

variable [Arithmetic Operand]

def addWithin : Operand → Operand → Except Failure Operand
  | text s, text t => .ok (text (s ++ t))
  | list a, list b => .ok (list (a ++ b))
  | tuple a, tuple b => .ok (tuple (a ++ b))
  | dimension a, dimension b => .ok (dimension (a + b))
  | dimension a, tuple b => do return dimension (a + (← (tuple b).toDimension))
  | tuple a, dimension b => do return dimension ((← (tuple a).toDimension) + b)
  | quantity a, quantity b => (a.add b).map quantity
  | a, b => lift Number.add a b

def subWithin : Operand → Operand → Except Failure Operand
  | dimension a, dimension b => .ok (dimension (a - b))
  | dimension a, tuple b => do return dimension (a - (← (tuple b).toDimension))
  | tuple a, dimension b => do return dimension ((← (tuple a).toDimension) - b)
  | quantity a, quantity b => (a.sub b).map quantity
  | a, b => lift Number.sub a b

/-- A truth value scales neither a quantity nor a dimension. -/
def mulWithin : Operand → Operand → Except Failure Operand
  | text s, b => repeatedText s b
  | a, text s => repeatedText s a
  | list a, b => (repeated a b).map list
  | a, list b => (repeated b a).map list
  | tuple a, b => (repeated a b).map tuple
  | a, tuple b => (repeated b a).map tuple
  | dimension d, number (.int k) => .ok (dimension (d.scale k))
  | number (.int k), dimension d => .ok (dimension (d.scale k))
  | unit a, unit b => (a.compose b).map unit
  | quantity a, quantity b => (a.mul b).map quantity
  | quantity a, number n => (a.scale (number n)).map quantity
  | number n, quantity b => (Quantity.scaleLeft (number n) b).map quantity
  | a, b => lift Number.mul a b

/-- One over a unit is its reciprocal. Nothing else can be divided by a unit. -/
def divWithin : Operand → Operand → Except Failure Operand
  | unit a, unit b => (a.invertCombine b).map unit
  | quantity a, quantity b => (a.div b).map quantity
  | quantity a, number n => (a.shrink (number n)).map quantity
  | number n, quantity b => (Quantity.divideInto (number n) b).map quantity
  | a, unit u => do
    if ← a.isOne then (u.power (-1)).map unit
    else throw (.notReciprocal (← a.shown))
  | a, b => lift Number.div a b

def powWithin (a : Operand) (k : Int) : Except Failure Operand :=
  match a with
  | unit u => (u.power k).map unit
  | quantity v => (v.pow k).map quantity
  | x => lift₁ (Number.pow · k) x

def negWithin : Operand → Except Failure Operand
  | dimension d => .ok (dimension (-d))
  | quantity v => v.neg.map quantity
  | x => lift₁ Number.neg x

def absWithin : Operand → Except Failure Operand
  | quantity v => v.abs.map quantity
  | x => lift₁ Number.abs x

def equalInt (n : Int) (x : Operand) : Except Failure Bool :=
  match x.number? with
  | some m => (Number.int n).equal m
  | none => .ok false

/-- A dimension equals the tuple of its exponents. -/
def equalInts : List Int → List Operand → Except Failure Bool
  | [], items => .ok items.isEmpty
  | _, [] => .ok false
  | n :: rest, item :: items => do
    if ← equalInt n item then equalInts rest items else return false

/-- Operands of different sorts are different. -/
def equalLeaves (a b : Operand) : Except Failure Bool :=
  match a, b with
  | null, null => .ok true
  | text s, text t => .ok (s == t)
  | a, b =>
    match a.number?, b.number? with
    | some m, some n => m.equal n
    | _, _ => .ok false

mutual

/-- Lists of different lengths are told apart by these alone. -/
def equalWithin : Operand → Operand → Except Failure Bool
  | list a, list b => if a.length = b.length then equalAll a b else .ok false
  | tuple a, tuple b => equalAll a b
  | dimension a, dimension b => .ok (a = b)
  | dimension a, tuple b => equalInts a.exponents b
  | tuple a, dimension b => equalInts b.exponents a
  | unit a, unit b => a.equal b
  | quantity a, quantity b => a.equal b
  | a, b => equalLeaves a b

def equalAll : List Operand → List Operand → Except Failure Bool
  | [], items => .ok items.isEmpty
  | _, [] => .ok false
  | a :: rest, b :: items => do if ← equalWithin a b then equalAll rest items else return false

end

/-- The order of lengths, which counts where one sequence goes on and the other does not. -/
def orderLengths (m n : Nat) : Except Failure (Option Ordering) :=
  .ok (some (compare m n))

def orderLeaves (a b : Operand) : Except Failure (Option Ordering) :=
  match a, b with
  | text s, text t => .ok (some (compare s t))
  | quantity _, other | other, quantity _ => .error (.incomparable other.kindName)
  | a, b =>
    match a.number?, b.number? with
    | some m, some n => m.order n
    | _, _ => .error .unsupported

/-- Sequences are ordered by the first place at which they differ, else by length. -/
def orderInts : List Int → List Operand → Except Failure (Option Ordering)
  | n :: rest, item :: items => do
    if ← equalInt n item then orderInts rest items else orderLeaves (int n) item
  | rest, items => orderLengths rest.length items.length

mutual

/-- Texts are ordered by their characters. -/
def orderWithin : Operand → Operand → Except Failure (Option Ordering)
  | list a, list b => orderAll a b
  | tuple a, tuple b => orderAll a b
  | dimension a, dimension b => orderInts a.exponents (b.exponents.map int)
  | dimension a, tuple b => orderInts a.exponents b
  | tuple a, dimension b => (orderInts b.exponents a).map (·.map Ordering.swap)
  | unit a, unit b => a.partialCompare b
  | quantity a, quantity b => a.order b
  | a, b => orderLeaves a b

def orderAll : List Operand → List Operand → Except Failure (Option Ordering)
  | a :: rest, b :: items => do
    if ← equalWithin a b then orderAll rest items else orderWithin a b
  | rest, items => orderLengths rest.length items.length

end

end

def toFloat (a : Operand) : Except Failure Float :=
  match a.number? with
  | some n => n.toFloat
  | none => .error .unsupported

/-- The arithmetic of operands whose magnitudes and factors have an inner one. -/
@[reducible] def within (inner : Arithmetic Operand) : Arithmetic Operand where
  add := addWithin
  sub := subWithin
  mul := mulWithin
  div := divWithin
  pow := powWithin
  neg := negWithin
  abs := absWithin
  equal := equalWithin
  order := orderWithin
  toFloat := toFloat

/-- The arithmetic of operands that are nested no deeper than this. No operation makes deeper
ones. -/
@[reducible] def level : Nat → Arithmetic Operand
  | 0 => within (.undefined Operand)
  | depth + 1 => within (level depth)

@[reducible] def levelOf (a b : Operand) : Arithmetic Operand :=
  level (max a.depth b.depth)

instance : Arithmetic Operand where
  add a b := (levelOf a b).add a b
  sub a b := (levelOf a b).sub a b
  mul a b := (levelOf a b).mul a b
  div a b := (levelOf a b).div a b
  pow a k := (level a.depth).pow a k
  neg a := (level a.depth).neg a
  abs a := (level a.depth).abs a
  equal a b := (levelOf a b).equal a b
  order a b := (levelOf a b).order a b
  toFloat := toFloat

@[simp] theorem mul_number (a b : Number) :
    Arithmetic.mul (number a) (number b) = (a.mul b).map number := rfl

@[simp] theorem pow_number (a : Number) (k : Int) :
    Arithmetic.pow (number a) k = (a.pow k).map number := rfl

end Metrology.Operand
