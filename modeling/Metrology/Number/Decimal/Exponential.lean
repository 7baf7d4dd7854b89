import Metrology.Number.Decimal.Basic
import Metrology.Number.Shortest

namespace Metrology.Decimal

/-- A coefficient and an exponent, cut to so many digits. -/
def toDigits (digits : Nat) (x : Nat × Int) : Nat × Int :=
  trim digits (quantize x.1 x.2 (adjusted x.1 x.2 - digits + 1))

/-- The places that a computation carries beyond those that it is asked for. -/
def spare : Nat := 30

/-- The rest of the series of the inverse hyperbolic tangent, from a power of the argument on. -/
def tangentSeries (one square : Nat) : Nat → Nat → Nat → Nat
  | 0, _, _ => 0
  | steps + 1, odd, power =>
    if power = 0 then 0
    else power / odd + tangentSeries one square steps (odd + 2) (power * square / one)

/-- The inverse hyperbolic tangent of a fraction of at most a half or so, in units of one. -/
def inverseTangent (one n d : Nat) : Nat :=
  let x := one * n / d
  tangentSeries one (x * x / one) (one.log2 + 2) 1 x

/-- The logarithm of ten: three times that of two and that of five quarters. -/
def logTen (one : Nat) : Nat :=
  6 * inverseTangent one 1 3 + 2 * inverseTangent one 1 9

/-- The logarithm of a positive fraction near one. -/
def logFraction (one n d : Nat) : Int :=
  if d ≤ n then 2 * inverseTangent one (n - d) (n + d)
  else -(2 * inverseTangent one (d - n) (n + d))

/-- The sign, whether negative, and the digits of the logarithm of a positive number other than
one. A number of few digits is not so close to one that its logarithm loses them. -/
def log (digits : Nat) (c : Nat) (e : Int) : Bool × (Nat × Int) :=
  let size := digitCount c
  let one := pow10 (digits + size + spare)
  let lead := adjusted c e
  -- The mantissa lies between a third and three.
  let high := 3 * pow10 (size - 1) ≤ c
  let scale := pow10 (if high then size else size - 1)
  let total := logFraction one c scale + (if high then lead + 1 else lead) * logTen one
  let found := significant digits total.natAbs one
  (total < 0, (found.digits, found.exponent))

/-- The rest of the exponential series, from a term on. -/
def exponentialSeries (one x : Nat) : Nat → Nat → Nat → Nat
  | 0, _, _ => 0
  | steps + 1, k, term =>
    if term = 0 then 0
    else term + exponentialSeries one x steps (k + 1) (term * x / (one * k))

/-- The exponential of a number that is neither large nor close to zero: a power of ten, and the
exponential of what is left. -/
def exp (digits : Nat) (negative : Bool) (c : Nat) (e : Int) : Nat × Int :=
  let one := pow10 (digits + spare)
  let x := signed negative (roundHalfEven (one * c * pow10 e.toNat) (pow10 (-e).toNat))
  let ten := logTen one
  let tens := x.fdiv ten
  let rest := (x - tens * ten).toNat
  let found := significant digits (exponentialSeries one rest (one.log2 + 2) 1 one) one
  (found.digits, found.exponent + tens)

end Metrology.Decimal
