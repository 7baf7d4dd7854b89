import Metrology.Number.Binary64

namespace Metrology

/-- Digits and a power of ten. -/
structure Significant where
  digits : Nat
  exponent : Int

/-- The least power of ten above a positive fraction. -/
def pointPlace (n d : Nat) : Int :=
  if d ≤ n then digitCount (n / d) else 1 - digitCount ((d - 1) / n)

/-- A positive fraction to so many digits, a tie to the even one. -/
def significant (count : Nat) (n d : Nat) : Significant :=
  let shift := (count : Int) - pointPlace n d
  ⟨roundHalfEven (n * pow10 shift.toNat) (d * pow10 (-shift).toNat), -shift⟩

namespace Binary64

/-- The numbers that read as a double lie between these two, in quarters of its last place. The
ends belong to it if the mantissa is even. -/
def interval (mantissa : Nat) (exponent : Int) : Nat × Nat :=
  (if mantissa = hiddenBit ∧ -1074 < exponent then 4 * mantissa - 1 else 4 * mantissa - 2,
    4 * mantissa + 2)

/-- Whether a decimal, over a common denominator, reads as the double. -/
def readsBack (mantissa : Nat) (exponent : Int) (decimal quarter : Nat) : Bool :=
  let ends := interval mantissa exponent
  if mantissa % 2 = 0 then ends.1 * quarter ≤ decimal && decimal ≤ ends.2 * quarter
  else ends.1 * quarter < decimal && decimal < ends.2 * quarter

/-- The decimal of so many digits that reads back, the nearer one if there are two. -/
def withDigits? (m : Nat) (exponent place : Int) (count : Nat) : Option Significant :=
  let e := exponent - 2
  let shift := (count : Int) - place
  let quarter := pow2 e.toNat * pow10 shift.toNat
  let grid := pow2 (-e).toNat * pow10 (-shift).toNat
  let low := 4 * m * quarter / grid
  let below := readsBack m exponent (low * grid) quarter
  let above := readsBack m exponent ((low + 1) * grid) quarter
  let nearest := roundHalfEven (4 * m * quarter) grid
  if below && above then some ⟨nearest, -shift⟩
  else if below then some ⟨low, -shift⟩
  else if above then some ⟨low + 1, -shift⟩
  else none

/-- The fewest digits that read back to a positive double. Seventeen always do. -/
def shortest (mantissa : Nat) (exponent : Int) : Significant :=
  let n := mantissa * pow2 exponent.toNat
  let d := pow2 (-exponent).toNat
  ((List.range 17).findSome? fun i => withDigits? mantissa exponent (pointPlace n d) (i + 1)).getD
    (significant 17 n d)

end Binary64

end Metrology
