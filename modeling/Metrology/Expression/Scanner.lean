import Metrology.Failure
import Metrology.Number.Literal
import Metrology.Text.Canonical
import Metrology.Text.Character

namespace Metrology

/-- A reference to an atomic unit. -/
structure Term where
  symbol : String
  exponent : Int
  inverted : Bool := false
  deriving DecidableEq

/-- The exponent that a slash in front turns around. -/
def Term.signedExponent (t : Term) : Int :=
  if t.inverted then -t.exponent else t.exponent

/-- The key of a unit symbol: spellings that are canonically equivalent have one key. -/
def symbolKey (symbol : String) : String :=
  Text.canonical symbol

namespace Expression

/-- A multiplication sign separates like a blank, a caret is dropped, and a slash ends what
precedes it. -/
def respell : Char → List Char
  | '*' | '·' | '⋅' => [' ']
  | '^' => []
  | '/' => [' ', '/']
  | c => [c]

/-- A unit expression with plain exponents, blanks for separators and no carets. -/
def plainSpelling (text : String) : String :=
  String.ofList ((Text.fromSuperscript (symbolKey text)).toList.flatMap respell)

inductive Mode
  | symbol
  | exponent
  deriving DecidableEq

/-- What the scanner holds between two characters. It reads into a symbol first and then into its
exponent. A slash marks the next term as inverted, and a lone `1` is the numerator of one. -/
structure Scanner where
  mode : Mode := .symbol
  symbol : List Char := []
  exponent : List Char := []
  inverted : Bool := false
  deriving DecidableEq

/-- Why a scan ends early. -/
inductive Stop
  | fault (fault : SyntaxFault)
  | exponent (symbol text : String)
  deriving DecidableEq

def isExponentChar (c : Char) : Bool :=
  c.isDigit || c == '-'

namespace Scanner

/-- The scanner behind a complete term or a numerator: a letter opens the next symbol. -/
def reopen (inverted : Bool) (c : Char) : Scanner :=
  { symbol := if c = ' ' then [] else [c], inverted := inverted }

def term (s : Scanner) (exponent : Int) : Term :=
  ⟨String.ofList s.symbol, exponent, s.inverted⟩

def stepSymbol (s : Scanner) (c : Char) : Except Stop (Scanner × Option Term) :=
  if Text.isLetter c then .ok ({ s with symbol := s.symbol ++ [c] }, none)
  else if isExponentChar c then
    .ok ({ s with mode := .exponent, exponent := s.exponent ++ [c] }, none)
  else if c = ' ' then .ok ({}, some (s.term 1))
  else .error (.fault (.unexpected c))

/-- The end of a number that no symbol precedes. -/
def endNumerator (s : Scanner) (c : Char) : Except Stop (Scanner × Option Term) :=
  if s.exponent ≠ ['1'] then .error (.fault (.bareNumber (String.ofList s.exponent)))
  else if s.inverted then .error (.fault .invertedNumber)
  else .ok (reopen s.inverted c, none)

def endExponent (s : Scanner) (c : Char) : Except Stop (Scanner × Option Term) :=
  match Literal.integer? s.exponent with
  | some e => .ok (reopen false c, some (s.term e))
  | none => .error (.exponent (String.ofList s.symbol) (String.ofList s.exponent))

def stepExponent (s : Scanner) (c : Char) : Except Stop (Scanner × Option Term) :=
  if isExponentChar c then .ok ({ s with exponent := s.exponent ++ [c] }, none)
  else if !(Text.isLetter c || c == ' ') then .error (.fault (.unexpected c))
  else if s.symbol = [] then s.endNumerator c
  else s.endExponent c

/-- Takes in one character, and hands out the term that it completes, if any. -/
def step (s : Scanner) (raw : Char) : Except Stop (Scanner × Option Term) :=
  let c := if Text.isBlank raw then ' ' else raw
  if c = ' ' ∧ s.symbol = [] ∧ s.exponent = [] then .ok (s, none)
  else if c = '/' then .ok ({ s with inverted := true }, none)
  else
    match s.mode with
    | .symbol => s.stepSymbol c
    | .exponent => s.stepExponent c

/-- The terms handed out, and the scanner at the end or the reason why there is none. -/
def run (s : Scanner) : List Char → List Term × Except Stop Scanner
  | [] => ([], .ok s)
  | c :: rest =>
    match s.step c with
    | .error stop => ([], .error stop)
    | .ok (next, handed) =>
      let (terms, last) := next.run rest
      (handed.toList ++ terms, last)

/-- A text is scanned in parts: the second one from where the first one ends. -/
theorem run_append (s : Scanner) (first second : List Char) :
    s.run (first ++ second) =
      match s.run first with
      | (terms, .error stop) => (terms, .error stop)
      | (terms, .ok next) => (terms ++ (next.run second).1, (next.run second).2) := by
  induction first generalizing s with
  | nil => simp [run]
  | cons c rest ih =>
    simp only [List.cons_append, run]
    cases step s c with
    | error stop => rfl
    | ok taken =>
      obtain ⟨next, handed⟩ := taken
      simp only [ih next]
      rcases next.run rest with ⟨terms, last⟩
      cases last <;> simp

end Scanner

def Stop.failure (text : String) : Stop → Failure
  | fault f => .expression text f
  | exponent symbol digits => .malformedExponent symbol digits

/-- A scan: the terms handed out, and what ended it early. -/
structure Scan where
  terms : List Term
  failure? : Option Failure

/-- The scan of a unit expression. A blank at its end completes the last term. -/
def scan (text : String) : Scan :=
  match ({} : Scanner).run ((plainSpelling text).toList ++ [' ']) with
  | (terms, .error stop) => ⟨terms, some (stop.failure text)⟩
  | (terms, .ok last) =>
    ⟨terms, if last.inverted then some (.expression text .danglingSlash) else none⟩

/-- All terms of an expression. -/
def terms (text : String) : Except Failure (List Term) :=
  match (scan text).failure? with
  | some failure => .error failure
  | none => .ok (scan text).terms

end Expression

end Metrology
