import Metrology.Number.Shortest

namespace Metrology

/-- The digits with the point behind so many of them: zeros fill up on either side. A point at
the end is not written. -/
def pointed (digits : List Char) (place : Int) : List Char :=
  if place ≤ 0 then ['0', '.'] ++ List.replicate (-place).toNat '0' ++ digits
  else if (digits.length : Int) ≤ place then
    digits ++ List.replicate (place.toNat - digits.length) '0'
  else digits.take place.toNat ++ '.' :: digits.drop place.toNat

/-- The text of a number with a point behind its whole digits, unless it has one. What begins with
a letter has no digits. -/
def keepPoint (text : String) : String :=
  let cs := text.toList
  let whole := cs.takeWhile fun c => c.isDigit || c == '-'
  if cs.contains '.' || !whole.any Char.isDigit then text
  else String.ofList (whole ++ '.' :: cs.drop whole.length)

/-- An exponent with its sign, at least so many digits wide. -/
def signedExponent (width : Nat) (e : Int) : List Char :=
  let digits := Nat.toDigits 10 e.natAbs
  (if e < 0 then '-' else '+') :: List.replicate (width - digits.length) '0' ++ digits

/-- How digits and a power of ten are laid out. -/
structure FloatLayout where
  /-- More digits than this before the point call for an exponent. -/
  widest : Nat
  /-- Whether an integer keeps a point and a zero. -/
  keepsPoint : Bool

namespace FloatLayout

/-- Small numbers have at most three zeros behind the point. -/
def lay (layout : FloatLayout) (s : Significant) : List Char :=
  let all := Nat.toDigits 10 s.digits
  let place := s.exponent + all.length
  let digits := (all.reverse.dropWhile (· == '0')).reverse
  if -4 < place ∧ place ≤ layout.widest then
    pointed digits place ++
      if layout.keepsPoint ∧ (digits.length : Int) ≤ place then ['.', '0'] else []
  else pointed digits 1 ++ 'e' :: signedExponent 2 (place - 1)

def chars (layout : FloatLayout) (choose : Nat → Int → Significant) : Binary64.Reading → List Char
  | .finite negative m e =>
    (if negative then ['-'] else []) ++
      if m = 0 then (if layout.keepsPoint then "0.0" else "0").toList else layout.lay (choose m e)
  | .infinite negative => (if negative then ['-'] else []) ++ "inf".toList
  | .nan => "nan".toList

/-- The full text is positional up to sixteen digits. -/
def full : FloatLayout := ⟨16, true⟩

def display : FloatLayout := ⟨15, false⟩

end FloatLayout

namespace Binary64

def text (r : Reading) : String :=
  String.ofList (FloatLayout.full.chars shortest r)

def fifteenDigits (mantissa : Nat) (exponent : Int) : Significant :=
  significant 15 (mantissa * pow2 exponent.toNat) (pow2 (-exponent).toNat)

def displayText (r : Reading) : String :=
  String.ofList (FloatLayout.display.chars fifteenDigits r)

end Binary64

end Metrology
