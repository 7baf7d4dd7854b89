import Metrology.Number.Decimal.Basic

namespace Metrology.Decimal

/-- What an operation makes of a NaN: it goes through, with the payload's last digits. -/
def spread (negative signaling : Bool) (payload : Nat) : Except Failure Decimal :=
  if signaling then .error .decimalInvalid
  else .ok (.nan negative false (payload % pow10 precision))

/-- The number rounded. A zero loses its sign. -/
def plus : Decimal → Except Failure Decimal
  | finite s c e => round precision (s && c != 0) c e
  | infinite s => .ok (infinite s)
  | nan s g p => spread s g p

def neg : Decimal → Except Failure Decimal
  | nan s g p => spread s g p
  | d => d.flip.plus

def abs (d : Decimal) : Except Failure Decimal :=
  if d.isNegative then d.neg else d.plus

/-- The NaN among two operands that goes through: a signaling one, else the first. -/
def spread? : Decimal → Decimal → Option (Except Failure Decimal)
  | nan s true p, _ => some (spread s true p)
  | _, nan s true p => some (spread s true p)
  | nan s g p, _ => some (spread s g p)
  | _, nan s g p => some (spread s g p)
  | _, _ => none

/-- Far below the last digit that is kept, only the sign of a summand counts: there one unit
stands for it. -/
def nearby (leading : Nat) (leadingExponent : Int) (coefficient : Nat) (exponent : Int) :
    Nat × Int :=
  let floor := leadingExponent + min (-1) ((digitCount leading : Int) - precision - 2)
  if floor ≤ exponent then (coefficient, exponent)
  else if coefficient = 0 then (0, floor)
  else if adjusted coefficient exponent < floor then (1, floor)
  else (coefficient, exponent)

/-- The sum where the first summand has the larger exponent. -/
def addAligned (s₁ : Bool) (c₁ : Nat) (e₁ : Int) (s₂ : Bool) (c₂ : Nat) (e₂ : Int) :
    Except Failure Decimal :=
  if c₁ = 0 then round precision (if c₂ = 0 then s₁ && s₂ else s₂) c₂ e₂
  else
    let low := nearby c₁ e₁ c₂ e₂
    let sum := signed s₁ c₁ * pow10 (e₁ - low.2).toNat + signed s₂ low.1
    round precision (if sum = 0 then s₁ && s₂ else sum < 0) sum.natAbs low.2

def add (a b : Decimal) : Except Failure Decimal :=
  match spread? a b with
  | some result => result
  | none =>
    match a, b with
    | finite s₁ c₁ e₁, finite s₂ c₂ e₂ =>
      if e₂ ≤ e₁ then addAligned s₁ c₁ e₁ s₂ c₂ e₂ else addAligned s₂ c₂ e₂ s₁ c₁ e₁
    | infinite s₁, infinite s₂ => if s₁ = s₂ then .ok (infinite s₁) else .error .decimalInvalid
    | infinite s, _ => .ok (infinite s)
    | _, other => .ok other

def sub (a b : Decimal) : Except Failure Decimal :=
  match spread? a b with
  | some result => result
  | none => a.add b.flip

def mul (a b : Decimal) : Except Failure Decimal :=
  match spread? a b with
  | some result => result
  | none =>
    match a, b with
    | finite s₁ c₁ e₁, finite s₂ c₂ e₂ => round precision (s₁ ^^ s₂) (c₁ * c₂) (e₁ + e₂)
    | infinite s₁, finite s₂ c _ | finite s₂ c _, infinite s₁ =>
      if c = 0 then .error .decimalInvalid else .ok (infinite (s₁ ^^ s₂))
    | _, _ => .ok (infinite (a.isNegative ^^ b.isNegative))

/-- Takes trailing zeros off, at most so many. -/
def stripZeros : Nat → Nat → Int → Nat × Int
  | 0, c, e => (c, e)
  | count + 1, c, e => if c % 10 = 0 then stripZeros count (c / 10) (e + 1) else (c, e)

/-- A quotient with one digit more than are kept, and its last digit off zero and five if there is
a remainder. An exact quotient comes as close as it can to the difference of the exponents. -/
def quotient (digits : Nat) (c₁ : Nat) (e₁ : Int) (c₂ : Nat) (e₂ : Int) : Nat × Int :=
  let shift := (digitCount c₂ : Int) - digitCount c₁ + digits + 1
  let n := c₁ * pow10 shift.toNat
  let d := c₂ * pow10 (-shift).toNat
  let q := n / d
  if n % d = 0 then stripZeros shift.toNat q (e₁ - e₂ - shift)
  else (if q % 5 = 0 then q + 1 else q, e₁ - e₂ - shift)

def divFinite (digits : Nat) (s₁ : Bool) (c₁ : Nat) (e₁ : Int) (s₂ : Bool) (c₂ : Nat) (e₂ : Int) :
    Except Failure Decimal :=
  if c₂ = 0 then .error (if c₁ = 0 then .decimalInvalid else .decimalDivisionByZero)
  else if c₁ = 0 then round digits (s₁ ^^ s₂) 0 (e₁ - e₂)
  else
    let q := quotient digits c₁ e₁ c₂ e₂
    round digits (s₁ ^^ s₂) q.1 q.2

def div (a b : Decimal) : Except Failure Decimal :=
  match spread? a b with
  | some result => result
  | none =>
    match a, b with
    | finite s₁ c₁ e₁, finite s₂ c₂ e₂ => divFinite precision s₁ c₁ e₁ s₂ c₂ e₂
    | infinite _, infinite _ => .error .decimalInvalid
    | finite s₁ _ _, _ => .ok (finite (s₁ ^^ b.isNegative) 0 (leastExponent precision))
    | _, _ => .ok (infinite (a.isNegative ^^ b.isNegative))

end Metrology.Decimal
