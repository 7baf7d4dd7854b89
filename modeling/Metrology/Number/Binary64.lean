import Metrology.Number.Rounding

namespace Metrology.Binary64

/-- What a double stands for: a mantissa times a power of two, or no number at all. -/
inductive Reading
  | finite (negative : Bool) (mantissa : Nat) (exponent : Int)
  | infinite (negative : Bool)
  | nan
  deriving DecidableEq

/-- The bits of positive infinity, above those of every finite magnitude. -/
def infinityBits : Nat := 0x7FF0000000000000

def signBit : Nat := 0x8000000000000000

/-- The bits of a number that is none. -/
def nanBits : Nat := 0x7FF8000000000000

/-- The leading bit of a normal mantissa, which is not stored. -/
def hiddenBit : Nat := 0x10000000000000

/-- Mantissa and exponent of a finite magnitude. -/
def magnitude (bits : Nat) : Nat × Int :=
  let field : Nat := bits / hiddenBit
  let fraction : Nat := bits % hiddenBit
  if field = 0 then (fraction, -1074) else (fraction + hiddenBit, (field : Int) - 1075)

def ofBits (bits : Nat) : Reading :=
  let negative := decide (signBit ≤ bits)
  let rest := bits % signBit
  if rest < infinityBits then .finite negative (magnitude rest).1 (magnitude rest).2
  else if rest = infinityBits then .infinite negative
  else .nan

def read (x : Float) : Reading :=
  ofBits x.toBits.toNat

/-- The exponent of the highest binary digit of a positive fraction. -/
def floorLog (n d : Nat) : Int :=
  let k := (n.log2 : Int) - d.log2
  if d * pow2 k.toNat ≤ n * pow2 (-k).toNat then k else k - 1

/-- The bits of the double nearest to a positive fraction, a tie to the even mantissa. They reach
the bits of infinity if the fraction is too large. -/
def nearestBits (n d : Nat) : Nat :=
  if n = 0 then 0
  else
    let e := max (floorLog n d - 52) (-1074)
    let mantissa := roundHalfEven (n * pow2 (-e).toNat) (d * pow2 e.toNat)
    min infinityBits ((e + 1074).toNat * hiddenBit + mantissa)

def withSign (negative : Bool) (bits : Nat) : Float :=
  Float.ofBits (UInt64.ofNat (if negative then signBit + bits else bits))

/-- A decimal numeral as a double. Beyond the exponents that doubles have, the result is infinite
or zero. -/
def ofDecimal (negative : Bool) (coefficient : Nat) (exponent : Int) : Float :=
  let lead := exponent + digitCount coefficient
  if coefficient = 0 ∨ lead < -400 then withSign negative 0
  else if 400 < lead then withSign negative infinityBits
  else
    withSign negative
      (nearestBits (coefficient * pow10 exponent.toNat) (pow10 (-exponent).toNat))

/-- The double nearest to a fraction, if it is not too large. -/
def ofFraction? (negative : Bool) (n d : Nat) : Option Float :=
  let bits := nearestBits n d
  if bits = infinityBits then none else some (withSign negative bits)

/-- A finite double as a fraction. -/
def toRat? (x : Float) : Option Rat :=
  match read x with
  | .finite negative m e =>
    let size := mkRat (m * pow2 e.toNat) (pow2 (-e).toNat)
    some (if negative then -size else size)
  | _ => none

/-- Whether a double is an integer. -/
def isWhole (x : Float) : Bool :=
  match toRat? x with
  | some q => q.den == 1
  | none => false

/-- Whether a double is an odd integer. -/
def isOdd (x : Float) : Bool :=
  match toRat? x with
  | some q => q.den == 1 && q.num % 2 == 1
  | none => false

end Metrology.Binary64
