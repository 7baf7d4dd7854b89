import Metrology.Number.Decimal.Arithmetic
import Metrology.Number.Decimal.Exponential

namespace Metrology.Decimal

/-- The bits of a number, from the highest on. -/
def bits (n : Nat) : List Bool :=
  (Nat.toDigits 2 n).map (· == '1')

/-- A rounded product of positive numbers. -/
def product (digits : Nat) (a b : Nat × Int) : Except Failure (Nat × Int) :=
  match round digits false (a.1 * b.1) (a.2 + b.2) with
  | .ok (finite _ c e) => .ok (c, e)
  | .ok _ => .error .decimalInvalid
  | .error failure => .error failure

/-- A power by squaring, from the highest bit of the exponent on. -/
def powerOfBits (digits : Nat) (base : Nat × Int) :
    Nat × Int → List Bool → Except Failure (Nat × Int)
  | acc, [] => .ok acc
  | acc, bit :: rest => do
    let square ← product digits acc acc
    let next ← if bit then product digits square base else pure square
    powerOfBits digits base next rest

/-- A power by squaring, from the lowest bit of the exponent on. -/
def powerOfLowBits (digits : Nat) :
    Nat × Int → Nat × Int → List Bool → Except Failure (Nat × Int)
  | acc, _, [] => .ok acc
  | acc, base, bit :: rest => do
    let next ← if bit then product digits acc base else pure acc
    if rest.isEmpty then return next
    powerOfLowBits digits next (← product digits base base) rest

/-- The reciprocal of a positive number. -/
def reciprocal (digits : Nat) (c : Nat) (e : Int) : Except Failure (Nat × Int) :=
  match divFinite digits false 1 0 false c e with
  | .ok (finite _ c' e') => .ok (c', e')
  | .ok _ => .error .decimalInvalid
  | .error failure => .error failure

/-- Whether the number is one or minus one. -/
def isUnit (c : Nat) (e : Int) : Bool :=
  e ≤ 0 && digitCount c == (-e).toNat + 1 && c == pow10 (-e).toNat

/-- A nonzero number to a nonzero power. The products carry as many digits more as the exponent
has, and two; those of a negative power, which are of the reciprocal, one more. An exponent of
more than sixty-four bits is taken from its lowest one on. -/
def powerFinite (c : Nat) (e : Int) (k : Int) (negative : Bool) : Except Failure Decimal := do
  if isUnit c e then
    let places := if k < 0 then 0 else min (k.toNat * (-e).toNat) (precision - 1)
    return finite negative (pow10 places) (-places)
  let digits := precision + digitCount k.natAbs + if k < 0 then 3 else 2
  let base ← if k < 0 then reciprocal digits c e else pure (c, e)
  let result ←
    if k.natAbs < pow2 64 then powerOfBits digits base base (bits k.natAbs).tail
    else powerOfLowBits digits (1, 0) base (bits k.natAbs).reverse
  round precision negative result.1 result.2

/-- An integer power. -/
def pow (a : Decimal) (k : Int) : Except Failure Decimal :=
  match a with
  | nan s g p => spread s g p
  | infinite s =>
    if k = 0 then .ok (finite false 1 0)
    else if k < 0 then .ok (finite (s && k % 2 == 1) 0 0)
    else .ok (infinite (s && k % 2 == 1))
  | finite s c e =>
    let negative := s && k % 2 == 1
    if c = 0 then
      if k = 0 then .error .decimalInvalid
      else if k < 0 then .ok (infinite negative)
      else .ok (finite negative 0 0)
    else if k = 0 then .ok (finite false 1 0)
    else powerFinite c e k negative

/-- One, written with all the digits that are kept. -/
def fullOne : Decimal :=
  .finite false (pow10 (precision - 1)) (1 - precision)

/-- How a positive number compares with one. -/
def compareOne (c : Nat) (e : Int) : Ordering :=
  if isUnit c e then .eq else if adjusted c e < 0 then .lt else .gt

/-- What becomes of a power that is far out of range: it is too large, or vanishes. -/
def beyond (vanishes negative : Bool) : Except Failure Decimal :=
  if vanishes then .ok (finite negative 0 (leastExponent precision)) else .error .decimalOverflow

/-- Whether a number other than zero is an integer. -/
def isWhole (c : Nat) (e : Int) : Bool :=
  0 ≤ e || ((-e).toNat < digitCount c && c % pow10 (-e).toNat == 0)

/-- Whether an integer other than zero is odd. -/
def isOdd (c : Nat) (e : Int) : Bool :=
  e ≤ 0 && c / pow10 (-e).toNat % 2 == 1

/-- Whether an exponent takes every power of a number out of range, the number one apart. A number
of few digits is not so close to one that it could stay in. -/
def outOfRange (c : Nat) (d : Nat) (f : Int) : Bool :=
  (digitCount c : Int) + 9 ≤ adjusted d f

/-- A finite number to an integer power that is too far off to be multiplied out. -/
def powFar (s : Bool) (c : Nat) (e : Int) (t : Bool) (d : Nat) (f : Int) : Except Failure Decimal :=
  let negative := s && isOdd d f
  if c = 0 then if t then .ok (infinite negative) else .ok (finite negative 0 0)
  else if isUnit c e then
    let places := if t ∨ e = 0 then 0 else precision - 1
    .ok (finite negative (pow10 places) (-places))
  else beyond ((compareOne c e == .lt) != t) negative

/-- The power of a positive number that is no integer power: the exponential of a multiple of the
logarithm. -/
def powReal (c : Nat) (e : Int) (t : Bool) (d : Nat) (f : Int) : Except Failure Decimal :=
  if isUnit c e then .ok fullOne
  else if outOfRange c d f then beyond ((compareOne c e == .lt) != t) false
  else
    let digits := max (digitCount c) precision + 23
    let (negative, l) := log digits c e
    let x := toDigits digits (l.1 * d, l.2 + f)
    if 7 ≤ adjusted x.1 x.2 then beyond (negative != t) false
    else if adjusted x.1 x.2 < -(digits : Int) - 2 then .ok fullOne
    else
      let y := exp digits (negative != t) x.1 x.2
      round precision false y.1 y.2

/-- A power with a finite exponent. -/
def powFinite (a : Decimal) (t : Bool) (d : Nat) (f : Int) : Except Failure Decimal :=
  match a with
  | nan s g p => spread s g p
  | infinite s =>
    if d = 0 then a.pow 0
    else if s && !isWhole d f then .error .decimalInvalid
    else
      let negative := s && isOdd d f
      if t then .ok (finite negative 0 0) else .ok (infinite negative)
  | finite s c e =>
    if d = 0 then a.pow 0
    else if isWhole d f then
      if outOfRange c d f then powFar s c e t d f
      else a.pow (signed t (d * pow10 f.toNat / pow10 (-f).toNat))
    else if c = 0 then if t then .ok (infinite false) else .ok (finite false 0 0)
    else if s then .error .decimalInvalid
    else powReal c e t d f

/-- A power with an infinite exponent depends on what is larger than one. -/
def powInfinite (a : Decimal) (t : Bool) : Except Failure Decimal :=
  let limit (o : Ordering) : Decimal :=
    match o with
    | .eq => fullOne
    | .gt => if t then finite false 0 0 else infinite false
    | .lt => if t then infinite false else finite false 0 0
  match a with
  | nan s g p => spread s g p
  | infinite s => if s then .error .decimalInvalid else .ok (limit .gt)
  | finite s c e =>
    if c = 0 then .ok (limit .lt)
    else if s then .error .decimalInvalid
    else .ok (limit (compareOne c e))

def power (a b : Decimal) : Except Failure Decimal :=
  match spread? a b with
  | some result => result
  | none =>
    match b with
    | finite t d f => powFinite a t d f
    | infinite t => powInfinite a t
    | nan s g p => spread s g p

end Metrology.Decimal
