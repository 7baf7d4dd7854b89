import Metrology.Number.Binary64
import Metrology.Number.Decimal.Basic
import Metrology.Text.Character

namespace Metrology.Literal

/-- More digits than this are neither read nor written as an integer. -/
def digitLimit : Nat := 4300

/-- Digits in their plain form. Other characters beyond ASCII belong to no literal. -/
def plainChar (c : Char) : Char :=
  match Text.digit? c with
  | some d => Nat.digitChar d
  | none => if c.toNat < 0x80 then c else '?'

def trim (blank : Char → Bool) (cs : List Char) : List Char :=
  ((cs.dropWhile blank).reverse.dropWhile blank).reverse

/-- Digits of every script count in a literal, and blanks around it do not. -/
def plain (text : String) : List Char :=
  (trim Text.isBlank text.toList).map plainChar

/-- Around integers and floats the information separators are no blanks. -/
def plainSpaced (text : String) : List Char :=
  (trim Text.isSpace text.toList).map plainChar

/-- Takes out underscores, each of which stands between two digits. -/
def ungroup (afterDigit : Bool) : List Char → Option (List Char)
  | [] => some []
  | '_' :: rest =>
    if afterDigit && (rest.head?.any Char.isDigit) then ungroup false rest else none
  | c :: rest => (ungroup c.isDigit rest).map (c :: ·)

/-- A sign in front, and whether it is a minus. -/
def splitSign : List Char → Bool × List Char
  | '-' :: rest => (true, rest)
  | '+' :: rest => (false, rest)
  | rest => (false, rest)

def natOfDigits (digits : List Char) : Nat :=
  Nat.ofDigitChars 10 digits 0

/-- Digits, of which there are some and all are taken. -/
def natural? (cs : List Char) : Option Nat :=
  if cs ≠ [] ∧ cs.all Char.isDigit then some (natOfDigits cs) else none

def applySign (negative : Bool) (n : Nat) : Int :=
  if negative then -(n : Int) else n

/-- A sign and digits, no more than are allowed. -/
def integer? (cs : List Char) : Option Int :=
  let (negative, digits) := splitSign cs
  if digits.length ≤ digitLimit then (natural? digits).map (applySign negative) else none

/-- A numeral with a point and an exponent, either of which may be missing. -/
structure Numeral where
  whole : List Char
  fraction : List Char
  /-- The digits of the exponent, and whether it is negative. -/
  exponent : List Char
  negativeExponent : Bool

namespace Numeral

def coefficient (n : Numeral) : Nat :=
  natOfDigits (n.whole ++ n.fraction)

/-- The power of ten of the last digit. -/
def scale (n : Numeral) : Int :=
  applySign n.negativeExponent (natOfDigits n.exponent) - n.fraction.length

/-- What may follow the digits: nothing, or an exponent. -/
def ofExponent? (whole fraction : List Char) : List Char → Option Numeral
  | [] => some ⟨whole, fraction, [], false⟩
  | c :: rest =>
    let (negative, digits) := splitSign rest
    if c.toLower = 'e' ∧ digits ≠ [] ∧ digits.all Char.isDigit then
      some ⟨whole, fraction, digits, negative⟩
    else none

/-- An unsigned numeral, with a digit before the point or behind it. -/
def ofChars? (cs : List Char) : Option Numeral :=
  let whole := cs.takeWhile Char.isDigit
  let rest := cs.dropWhile Char.isDigit
  let fraction := match rest with
    | '.' :: more => more.takeWhile Char.isDigit
    | _ => []
  let tail := match rest with
    | '.' :: more => more.dropWhile Char.isDigit
    | other => other
  if whole = [] ∧ fraction = [] then none else ofExponent? whole fraction tail

end Numeral

def isInfinity (word : List Char) : Bool :=
  word == "inf".toList || word == "infinity".toList

/-- A double: the one nearest to the numeral, or one of the words for infinity and no number. -/
def float? (text : String) : Option Float := do
  let (negative, cs) := splitSign (← ungroup false (plainSpaced text))
  let word := cs.map Char.toLower
  if isInfinity word then return Binary64.withSign negative Binary64.infinityBits
  if word = "nan".toList then return Binary64.withSign negative Binary64.nanBits
  let numeral ← Numeral.ofChars? cs
  return Binary64.ofDecimal negative numeral.coefficient numeral.scale

/-- The integers in a fraction literal keep within the limit of digits. -/
def Numeral.withinLimit (n : Numeral) : Bool :=
  n.whole.length ≤ digitLimit && n.fraction.length ≤ digitLimit && n.exponent.length ≤ digitLimit

/-- A fraction: two integers with a slash between them, or a numeral. -/
def ratio (text : String) : Except Failure Rat :=
  match ungroup false (plain text) with
  | none => .error .badValue
  | some signed =>
    let (negative, cs) := splitSign signed
    if cs.contains '/' then
      let top := cs.takeWhile (· ≠ '/')
      let bottom := (cs.dropWhile (· ≠ '/')).drop 1
      match natural? top, natural? bottom with
      | some n, some d =>
        if digitLimit < top.length ∨ digitLimit < bottom.length then .error .badValue
        else if d = 0 then .error .divisionByZero
        else .ok (mkRat (applySign negative n) d)
      | _, _ => .error .badValue
    else
      match Numeral.ofChars? cs with
      | none => .error .badValue
      | some numeral =>
        if numeral.withinLimit then
          .ok (mkRat (applySign negative numeral.coefficient * pow10 numeral.scale.toNat)
            (pow10 (-numeral.scale).toNat))
        else .error .badValue

/-- The widest range of exponents of an exact decimal. -/
def exactLimit : Int := 999999999999999999

def decimalFits (coefficient : Nat) (exponent : Int) : Bool :=
  if coefficient = 0 then -2 * exactLimit + 1 ≤ exponent && exponent ≤ exactLimit
  else
    -2 * exactLimit + 1 ≤ exponent && Decimal.adjusted coefficient exponent ≤ exactLimit

/-- What may follow the word for no number: the digits of its payload. -/
def payload? (digits : List Char) : Option Nat :=
  if digits = [] then some 0 else natural? digits

/-- An exact decimal, or one of the words for infinity and no number. Underscores do not count
wherever they stand. -/
def decimal? (text : String) : Option Decimal := do
  let (negative, cs) := splitSign ((plain text).filter (· ≠ '_'))
  let word := cs.map Char.toLower
  if isInfinity word then return .infinite negative
  if word.take 3 = "nan".toList then return .nan negative false (← payload? (cs.drop 3))
  if word.take 4 = "snan".toList then return .nan negative true (← payload? (cs.drop 4))
  let numeral ← Numeral.ofChars? cs
  if decimalFits numeral.coefficient numeral.scale then
    return .finite negative numeral.coefficient numeral.scale
  none

def int? (text : String) : Option Int := do
  integer? (← ungroup false (plainSpaced text))

end Metrology.Literal
