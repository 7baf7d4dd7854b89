import Metrology.Text.Canonical.Composites
import Metrology.Text.Canonical.Equivalents
import Metrology.Text.Canonical.Marks

namespace Metrology.Text.Canonical

/-- The jamo of a Hangul syllable: a leading consonant, a vowel and perhaps a trailing consonant. -/
def jamo (syllable : Nat) : List Nat :=
  let i := syllable - 0xAC00
  let pair := [0x1100 + i / 588, 0x1161 + i % 588 / 28]
  if i % 28 = 0 then pair else pair ++ [0x11A7 + i % 28]

def compositeParts? (n : Nat) : Option (List Nat) :=
  composites.findSome? fun group =>
    (group.2.find? fun entry => entry.2 == n).map fun entry => [entry.1, group.1]

def singletonPart? (n : Nat) : Option (List Nat) :=
  singletonRuns.findSome? fun run =>
    if run.1 ≤ n then run.2[n - run.1]?.map ([·]) else none

def excludedParts? (n : Nat) : Option (List Nat) :=
  (excludedPairs.find? fun entry => entry.1 == n).map fun entry => [entry.2.1, entry.2.2]

/-- What a character stands for, in one step. -/
def parts? (c : Char) : Option (List Char) :=
  let n := c.toNat
  if n < 0xC0 then none
  else if 0xAC00 ≤ n ∧ n ≤ 0xD7A3 then some ((jamo n).map Char.ofNat)
  else (compositeParts? n <|> singletonPart? n <|> excludedParts? n).map (·.map Char.ofNat)

/-- What a character stands for after at most so many steps. -/
def expand : Nat → Char → List Char
  | 0, c => [c]
  | steps + 1, c =>
    match parts? c with
    | none => [c]
    | some parts => parts.flatMap (expand steps)

/-- No character takes more than three steps. -/
def decompose (cs : List Char) : List Char :=
  cs.flatMap (expand 3)

/-- Puts a character in front, but behind the marks of lower class that come first. -/
def place (c : Char) : List Char → List Char
  | [] => [c]
  | d :: rest =>
    if 0 < combiningClass d ∧ combiningClass d < combiningClass c then d :: place c rest
    else c :: d :: rest

/-- The marks after each base, in order of their classes. -/
def order (cs : List Char) : List Char :=
  cs.foldr place []

def syllable? (a b : Nat) : Option Nat :=
  if 0x1100 ≤ a ∧ a < 0x1113 ∧ 0x1161 ≤ b ∧ b < 0x1176 then
    some (0xAC00 + ((a - 0x1100) * 21 + (b - 0x1161)) * 28)
  else if 0xAC00 ≤ a ∧ a ≤ 0xD7A3 ∧ (a - 0xAC00) % 28 = 0 ∧ 0x11A7 < b ∧ b < 0x11C3 then
    some (a + (b - 0x11A7))
  else none

def composite? (a b : Nat) : Option Nat :=
  (composites.lookup b).bind fun group => group.lookup a

/-- The character that stands for this pair. -/
def compose? (a b : Char) : Option Char :=
  if b.toNat < 0x300 then none
  else (syllable? a.toNat b.toNat <|> composite? a.toNat b.toNat).map Char.ofNat

/-- A mark is blocked from its base by a mark between them of the same or a higher class. -/
def blocked (marks : List Char) (c : Char) : Bool :=
  match marks.getLast? with
  | none => false
  | some m => combiningClass c ≤ combiningClass m

/-- Goes on from a base and the marks that it has not taken in. -/
def settle (base : Char) (marks : List Char) : List Char → List Char
  | [] => base :: marks
  | c :: rest =>
    match if blocked marks c then none else compose? base c with
    | some joined => settle joined marks rest
    | none =>
      if combiningClass c = 0 then base :: marks ++ settle c [] rest
      else settle base (marks ++ [c]) rest

def compose : List Char → List Char
  | [] => []
  | c :: rest => if combiningClass c = 0 then settle c [] rest else c :: compose rest

end Metrology.Text.Canonical

namespace Metrology.Text

/-- The canonically composed form of a text. -/
def canonical (text : String) : String :=
  String.ofList (Canonical.compose (Canonical.order (Canonical.decompose text.toList)))

end Metrology.Text
