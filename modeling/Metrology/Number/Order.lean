import Metrology.Number.Basic

namespace Metrology

/-- The exact value of a number: a numerator times a power of ten over a denominator, or none. -/
inductive Extent
  | finite (numerator : Int) (exponent : Int) (denominator : Nat)
  | infinite (negative : Bool)
  | nan (signaling : Bool)

namespace Extent

def ofRat (q : Rat) : Extent :=
  .finite q.num 0 q.den

/-- Magnitudes with different leading places need no alignment. -/
def compareMagnitude (c₁ : Nat) (e₁ : Int) (c₂ : Nat) (e₂ : Int) : Ordering :=
  if c₁ = 0 ∨ c₂ = 0 then Ord.compare c₁ c₂
  else
    let lead₁ := Decimal.adjusted c₁ e₁
    let lead₂ := Decimal.adjusted c₂ e₂
    if lead₁ = lead₂ then
      Ord.compare (c₁ * pow10 (e₁ - e₂).toNat) (c₂ * pow10 (e₂ - e₁).toNat)
    else Ord.compare lead₁ lead₂

def compareScaled (m₁ : Int) (e₁ : Int) (m₂ : Int) (e₂ : Int) : Ordering :=
  if m₁.sign = m₂.sign then
    if m₁ < 0 then compareMagnitude m₂.natAbs e₂ m₁.natAbs e₁
    else compareMagnitude m₁.natAbs e₁ m₂.natAbs e₂
  else Ord.compare m₁.sign m₂.sign

/-- Where an infinity stands to every finite number. -/
def side (negative : Bool) : Ordering :=
  if negative then .lt else .gt

def compare? : Extent → Extent → Option Ordering
  | nan _, _ | _, nan _ => none
  | finite n₁ e₁ d₁, finite n₂ e₂ d₂ => some (compareScaled (n₁ * d₂) e₁ (n₂ * d₁) e₂)
  | infinite s₁, infinite s₂ => some (if s₁ = s₂ then .eq else side s₁)
  | infinite s, finite .. => some (side s)
  | finite .., infinite s => some (side s).swap

def isSignaling : Extent → Bool
  | nan signaling => signaling
  | _ => false

end Extent

namespace Number

def extent : Number → Extent
  | int n => .ofRat n
  | ratio q => .ofRat q
  | float x =>
    match Binary64.toRat? x, Binary64.read x with
    | some q, _ => .ofRat q
    | none, .infinite negative => .infinite negative
    | none, _ => .nan false
  | decimal (.finite negative c e) => .finite (Decimal.signed negative c) e 1
  | decimal (.infinite negative) => .infinite negative
  | decimal (.nan _ signaling _) => .nan signaling

def compareRat (a b : Rat) : Ordering :=
  if a < b then .lt else if a = b then .eq else .gt

def isDecimal : Number → Bool
  | decimal _ => true
  | _ => false

/-- How two numbers compare, if they do. -/
def compare? : Number → Number → Option Ordering
  | int a, int b => some (Ord.compare a b)
  | int a, ratio b => some (compareRat a b)
  | ratio a, int b => some (compareRat a b)
  | ratio a, ratio b => some (compareRat a b)
  | a, b => a.extent.compare? b.extent

/-- Equality fails only on a signaling NaN. -/
def equal (a b : Number) : Except Failure Bool :=
  if a.extent.isSignaling || b.extent.isSignaling then .error .decimalInvalid
  else .ok (a.compare? b == some .eq)

/-- A NaN stands in no order to anything, and with a decimal to ask for one is an error. -/
def order (a b : Number) : Except Failure (Option Ordering) :=
  match a.compare? b with
  | some o => .ok (some o)
  | none => if a.isDecimal || b.isDecimal then .error .decimalInvalid else .ok none

def lt (a b : Number) : Except Failure Bool :=
  (a.order b).map (· == some .lt)

end Number

end Metrology
