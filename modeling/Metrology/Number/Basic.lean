import Metrology.Failure
import Metrology.Number.Binary64
import Metrology.Number.Decimal.Power

namespace Metrology

inductive Number
  | int (n : Int)
  | float (x : Float)
  | ratio (q : Rat)
  | decimal (d : Decimal)

/-- Two numbers brought to one kind. -/
inductive Number.Pair
  | ints (a b : Int)
  | floats (a b : Float)
  | ratios (a b : Rat)
  | decimals (a b : Decimal)

namespace Number

/-- The float nearest to a quotient of integers. Its sign is that of the two, even at zero. -/
def floatQuotient (a b : Int) : Except Failure Float :=
  match Binary64.ofFraction? (a < 0 ^^ b < 0) a.natAbs b.natAbs with
  | some x => .ok x
  | none => .error .overflow

def floatOfRat (q : Rat) : Except Failure Float :=
  floatQuotient q.num q.den

def floatOfInt (n : Int) : Except Failure Float :=
  floatQuotient n 1

/-- An integer joins any other kind, a fraction meets a float as a float, and a decimal meets
neither. -/
def meet : Number → Number → Except Failure Pair
  | int a, int b => .ok (.ints a b)
  | int a, ratio b => .ok (.ratios a b)
  | int a, float b => (floatOfInt a).map (.floats · b)
  | int a, decimal b => .ok (.decimals (Decimal.ofInt a) b)
  | ratio a, int b => .ok (.ratios a b)
  | ratio a, ratio b => .ok (.ratios a b)
  | ratio a, float b => (floatOfRat a).map (.floats · b)
  | ratio _, decimal _ => .error .unsupported
  | float a, int b => (floatOfInt b).map (.floats a)
  | float a, ratio b => (floatOfRat b).map (.floats a)
  | float a, float b => .ok (.floats a b)
  | float _, decimal _ => .error .unsupported
  | decimal a, int b => .ok (.decimals a (Decimal.ofInt b))
  | decimal a, decimal b => .ok (.decimals a b)
  | decimal _, _ => .error .unsupported

def add (a b : Number) : Except Failure Number := do
  match ← meet a b with
  | .ints a b => .ok (int (a + b))
  | .floats a b => .ok (float (a + b))
  | .ratios a b => .ok (ratio (a + b))
  | .decimals a b => (a.add b).map decimal

def sub (a b : Number) : Except Failure Number := do
  match ← meet a b with
  | .ints a b => .ok (int (a - b))
  | .floats a b => .ok (float (a - b))
  | .ratios a b => .ok (ratio (a - b))
  | .decimals a b => (a.sub b).map decimal

def mul (a b : Number) : Except Failure Number := do
  match ← meet a b with
  | .ints a b => .ok (int (a * b))
  | .floats a b => .ok (float (a * b))
  | .ratios a b => .ok (ratio (a * b))
  | .decimals a b => (a.mul b).map decimal

/-- The quotient of two integers is a float. -/
def div (a b : Number) : Except Failure Number := do
  match ← meet a b with
  | .ints a b =>
    if b = 0 then .error .divisionByZero else (floatQuotient a b).map float
  | .floats a b => if b == 0 then .error .divisionByZero else .ok (float (a / b))
  | .ratios a b => if b = 0 then .error .divisionByZero else .ok (ratio (a / b))
  | .decimals a b => (a.div b).map decimal

/-- A float to the power of a float. The power of a finite number is not infinite, and that of a
negative one is a real number only for an integer exponent. -/
def powFloat (x y : Float) : Except Failure Float :=
  if y == 0 then .ok 1
  else
    match Binary64.read x, Binary64.read y with
    | .nan, _ => .ok x
    | _, .nan => .ok (if x == 1 then 1 else y)
    | _, .infinite _ =>
      if x.abs == 1 then .ok 1 else .ok (if (0 < y) == (1 < x.abs) then y.abs else 0)
    | .infinite _, .finite .. =>
      let size := if 0 < y then x.abs else 0
      .ok (if Binary64.isOdd y && x < 0 then -size else size)
    | .finite negative mantissa _, .finite .. =>
      if mantissa = 0 then
        if y < 0 then .error .divisionByZero
        else .ok (if Binary64.isOdd y then x else 0)
      else
        let size := x.abs.pow y
        if size.isInf then .error .overflow
        else if negative && !Binary64.isWhole y then .error .unsupported
        else .ok (if Binary64.isOdd y && negative then -size else size)

/-- A natural power of an integer. Those of zero, one and minus one take no multiplication. -/
def powInt (a : Int) (k : Nat) : Int :=
  if k = 0 then 1
  else if a.natAbs ≤ 1 then (if a = -1 ∧ k % 2 = 0 then 1 else a)
  else Int.pow a k

theorem powInt_eq (a : Int) (k : Nat) : powInt a k = Int.pow a k := by
  change powInt a k = a ^ k
  unfold powInt
  split
  · next h => simp [h]
  · next h =>
    split
    · next small =>
      have cases : a = 0 ∨ a = 1 ∨ a = -1 := by omega
      rcases cases with rfl | rfl | rfl
      · simp [Int.zero_pow h]
      · rw [Int.one_pow]
        rfl
      · have split := Nat.div_add_mod k 2
        by_cases even : k % 2 = 0
        · rw [if_pos ⟨rfl, even⟩, ← split, even, Int.pow_add, Int.pow_mul]
          change 1 = 1 ^ (k / 2) * (1 : Int)
          rw [Int.one_pow, Int.one_mul]
        · have odd : k % 2 = 1 := by omega
          rw [if_neg (by simp [even]), ← split, odd, Int.pow_add, Int.pow_mul]
          change -1 = 1 ^ (k / 2) * (-1 : Int)
          rw [Int.one_pow, Int.one_mul]
    · rfl

/-- A natural power of a fraction. -/
def powRat (q : Rat) (k : Nat) : Rat :=
  mkRat (powInt q.num k) (powInt q.den k).natAbs

theorem powRat_eq (q : Rat) (k : Nat) : powRat q k = q ^ k := by
  rw [powRat, powInt_eq, powInt_eq]
  exact Rat.mkRat_self (q ^ k)

/-- An integer power. A negative power of an integer is a float. -/
def pow (a : Number) (k : Int) : Except Failure Number :=
  match a with
  | int n =>
    if 0 ≤ k then .ok (int (powInt n k.toNat))
    else do return float (← powFloat (← floatOfInt n) (← floatOfInt k))
  | float x => do return float (← powFloat x (← floatOfInt k))
  | ratio q =>
    if 0 ≤ k then .ok (ratio (powRat q k.toNat))
    else if q = 0 then .error .divisionByZero
    else .ok (ratio (powRat q (-k).toNat)⁻¹)
  | decimal d => (d.pow k).map decimal

/-- The float nearest to a number that is none of the decimals. -/
def realFloat : Number → Except Failure Float
  | int n => floatOfInt n
  | float x => .ok x
  | ratio q => floatOfRat q
  | decimal _ => .error .unsupported

def powReal (a b : Number) : Except Failure Number := do
  let x ← a.realFloat
  let y ← b.realFloat
  return float (← powFloat x y)

/-- A power whose exponent may be any number. It is a fraction or a float, unless the exponent is
an integer or both are decimals. An integer to a natural power is an integer even if the exponent
is a fraction. -/
def power (a b : Number) : Except Failure Number :=
  match a, b with
  | a, int k => a.pow k
  | decimal d, decimal p => (d.power p).map decimal
  | int n, decimal p => ((Decimal.ofInt n).power p).map decimal
  | ratio q, decimal _ => do
    let _ ← floatOfRat q
    throw .unsupported
  | decimal d, ratio r =>
    if r.den = 1 then (decimal d).pow r.num
    else do
      let _ ← floatOfRat r
      throw .unsupported
  | int n, ratio r =>
    if r.den ≠ 1 then powReal a b
    else if 0 ≤ r.num then (int n).pow r.num
    else (ratio n).pow r.num
  | a, ratio r => if r.den = 1 then a.pow r.num else powReal a b
  | a, b => powReal a b

def isZero : Number → Bool
  | int n => n = 0
  | float x => x == 0
  | ratio q => q = 0
  | decimal (.finite _ c _) => c = 0
  | decimal _ => false

def neg : Number → Except Failure Number
  | int n => .ok (int (-n))
  | float x => .ok (float (-x))
  | ratio q => .ok (ratio (-q))
  | decimal d => d.neg.map decimal

/-- The number itself, a decimal rounded. -/
def plus : Number → Except Failure Number
  | decimal d => d.plus.map decimal
  | a => .ok a

def abs : Number → Except Failure Number
  | int n => .ok (int n.natAbs)
  | float x => .ok (float x.abs)
  | ratio q => .ok (ratio q.abs)
  | decimal d => d.abs.map decimal

theorem div_ratio {a b : Rat} (h : b ≠ 0) : div (ratio a) (ratio b) = .ok (ratio (a / b)) := by
  change (if b = 0 then _ else _) = _
  rw [if_neg h]

theorem pow_ratio_natCast (q : Rat) (k : Nat) : pow (ratio q) k = .ok (ratio (q ^ k)) := by
  simp [pow, powRat_eq]

end Number

end Metrology
