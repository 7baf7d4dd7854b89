import Metrology.Failure
import Metrology.Number.Rounding

namespace Metrology

/-- A sign, a coefficient and a power of ten. Trailing zeros count, so that `1.50` and `1.5` are two
representations of one number. -/
inductive Decimal
  | finite (negative : Bool) (coefficient : Nat) (exponent : Int)
  | infinite (negative : Bool)
  /-- A signaling one fails in every operation. -/
  | nan (negative signaling : Bool) (payload : Nat)
  deriving DecidableEq

namespace Decimal

def ofInt (n : Int) : Decimal :=
  .finite (n < 0) n.natAbs 0

def isNegative : Decimal → Bool
  | finite s _ _ | infinite s | nan s _ _ => s

def flip : Decimal → Decimal
  | finite s c e => finite (!s) c e
  | infinite s => infinite (!s)
  | nan s g p => nan (!s) g p

/-- A coefficient with the sign in front. -/
def signed (negative : Bool) (coefficient : Nat) : Int :=
  if negative then -(coefficient : Int) else coefficient

/-- Every operation rounds its exact result to so many digits, a tie to the even neighbour. -/
def precision : Nat := 28
def maxExponent : Int := 999999
def minExponent : Int := -999999

/-- The exponent of the smallest subnormal number. -/
def leastExponent (digits : Nat) : Int := minExponent - digits + 1

/-- The exponent of the leading digit. -/
def adjusted (coefficient : Nat) (exponent : Int) : Int :=
  exponent + digitCount coefficient - 1

/-- A coefficient cut to the digits from an exponent on. -/
def quantize (coefficient : Nat) (exponent target : Int) : Nat × Int :=
  if target ≤ exponent then (coefficient, exponent)
  else (dropDigits coefficient (target - exponent).toNat, target)

/-- The rounded coefficient may have grown a digit: then its last digit is zero. -/
def trim (digits : Nat) (rounded : Nat × Int) : Nat × Int :=
  if digits < digitCount rounded.1 then (rounded.1 / 10, rounded.2 + 1) else rounded

/-- The exact number rounded to so many digits. -/
def round (digits : Nat) (negative : Bool) (coefficient : Nat) (exponent : Int) :
    Except Failure Decimal :=
  if coefficient = 0 then
    .ok (.finite negative 0 (max (leastExponent digits) (min exponent maxExponent)))
  else
    let target := max (adjusted coefficient exponent - digits + 1) (leastExponent digits)
    let rounded := trim digits (quantize coefficient exponent target)
    if maxExponent < adjusted rounded.1 rounded.2 then .error .decimalOverflow
    else .ok (.finite negative rounded.1 rounded.2)

end Decimal

end Metrology
