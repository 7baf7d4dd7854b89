import Metrology.Number.Basic
import Metrology.Number.FloatText
import Metrology.Number.Literal
import Metrology.Text.Character

namespace Metrology

namespace Decimal

/-- The point is set without an exponent if that takes at most five zeros behind it. -/
def numeral (coefficient : Nat) (exponent : Int) : List Char :=
  let digits := Nat.toDigits 10 coefficient
  let lead := exponent + digits.length
  if exponent ≤ 0 ∧ -6 < lead then pointed digits lead
  else
    pointed digits 1 ++ if lead = 1 then [] else 'E' :: signedExponent 1 (lead - 1)

def chars (d : Decimal) : List Char :=
  (if d.isNegative then ['-'] else []) ++
    match d with
    | finite _ c e => numeral c e
    | infinite _ => "Infinity".toList
    | nan _ signaling payload =>
      (if signaling then "sNaN" else "NaN").toList ++
        if payload = 0 then [] else Nat.toDigits 10 payload

def text (d : Decimal) : String :=
  String.ofList d.chars

end Decimal

/-- An integer in digits, if these are no more than the limit. -/
def integerText (n : Int) : Except Failure String :=
  if n.natAbs < pow10 Literal.digitLimit then .ok (toString n) else .error .badValue

/-- An integer in superscript glyphs. -/
def superscriptText (n : Int) : Except Failure String :=
  (integerText n).map Text.toSuperscript

/-- A fraction in lowest terms, an integer without a denominator. -/
def ratioText (q : Rat) : Except Failure String := do
  let top ← integerText q.num
  if q.den = 1 then return top
  let bottom ← integerText q.den
  return top ++ "/" ++ bottom

namespace Number

def text : Number → Except Failure String
  | int n => integerText n
  | float x => .ok (Binary64.text (Binary64.read x))
  | ratio q => ratioText q
  | decimal d => .ok d.text

/-- The text that tells the kind too. -/
def shown : Number → Except Failure String
  | int n => integerText n
  | float x => .ok (Binary64.text (Binary64.read x))
  | ratio q => do
    return "Fraction(" ++ (← integerText q.num) ++ ", " ++ (← integerText q.den) ++ ")"
  | decimal d => .ok ("Decimal('" ++ d.text ++ "')")

/-- Floats and integers are displayed with fifteen significant digits. -/
def displayed : Number → Except Failure String
  | int n =>
    let bits := Binary64.nearestBits n.natAbs 1
    if bits = Binary64.infinityBits then .error .overflow
    else
      .ok (Binary64.displayText
        (.finite (n < 0) (Binary64.magnitude bits).1 (Binary64.magnitude bits).2))
  | float x => .ok (Binary64.displayText (Binary64.read x))
  | ratio q => ratioText q
  | decimal d => .ok d.text

/-- The plain text with a point in every float. Fractions and decimals have no such text. -/
def pointedText : Number → Except Failure String
  | int n => integerText n
  | float x => .ok (keepPoint (Binary64.text (Binary64.read x)))
  | ratio _ => .error .unsupported
  | decimal _ => .error .badValue

def kindName : Number → String
  | int _ => "int"
  | float _ => "float"
  | ratio _ => "Fraction"
  | decimal _ => "Decimal"

/-- The integer part. A decimal with more digits than can be written is refused. -/
def truncate : Number → Except Failure Int
  | int n => .ok n
  | float x =>
    match Binary64.toRat? x, Binary64.read x with
    | some q, _ => .ok (q.num.tdiv q.den)
    | none, .infinite _ => .error .overflow
    | none, _ => .error .badValue
  | ratio q => .ok (q.num.tdiv q.den)
  | decimal (.finite s c e) =>
    if c = 0 ∨ e + digitCount c ≤ 0 then .ok 0
    else if Literal.digitLimit ≤ Decimal.adjusted c e then .error .badValue
    else .ok ((Decimal.signed s c * pow10 e.toNat).tdiv (pow10 (-e).toNat))
  | decimal (.infinite _) => .error .overflow
  | decimal (.nan ..) => .error .badValue

/-- The nearest float. A decimal beyond its range becomes infinite. -/
def toFloat : Number → Except Failure Float
  | int n => floatOfInt n
  | float x => .ok x
  | ratio q => floatOfRat q
  | decimal (.finite s c e) => .ok (Binary64.ofDecimal s c e)
  | decimal (.infinite s) => .ok (Binary64.withSign s Binary64.infinityBits)
  | decimal (.nan _ signaling _) =>
    if signaling then .error .badValue
    else .ok (Binary64.withSign false Binary64.nanBits)

end Number

end Metrology
