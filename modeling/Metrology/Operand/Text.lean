import Metrology.Operand.Basic

namespace Metrology.Operand

def boolText (b : Bool) : String :=
  if b then "True" else "False"

/-- A tuple of one item keeps a comma. -/
def tupleText : List String → String
  | [item] => "(" ++ item ++ ",)"
  | items => "(" ++ ", ".intercalate items ++ ")"

mutual

def shown : Operand → Except Failure String
  | null => .ok "None"
  | bool b => .ok (boolText b)
  | text s => .ok (Text.quoted s)
  | number n => n.shown
  | list items => (shownAll items).map fun parts => "[" ++ ", ".intercalate parts ++ "]"
  | tuple items => (shownAll items).map tupleText
  | dimension d => d.shown
  | unit ⟨d, factor⟩ => do
    return "Unit(" ++ (← d.shown) ++ ", factor=" ++ (← factor.shown) ++ ")"
  | quantity ⟨magnitude, ⟨d, factor⟩⟩ => do
    return "Value(" ++ (← magnitude.shown) ++ ", Unit(" ++ (← d.shown) ++ ", factor="
      ++ (← factor.shown) ++ "))"

def shownAll : List Operand → Except Failure (List String)
  | [] => .ok []
  | item :: rest => do return (← item.shown) :: (← shownAll rest)

end

/-- The plain text: that of a dimension is in words. -/
def plain : Operand → Except Failure String
  | text s => .ok s
  | number n => n.text
  | dimension d => d.verbose
  | x => x.shown

/-- The text to display as a magnitude. -/
def displayed : Operand → Except Failure String
  | bool b => .ok (if b then "1" else "0")
  | number n => n.displayed
  | x => x.plain

/-- The text in the place of a dimension's name. A float keeps its point there. -/
def named : Operand → Except Failure String
  | bool b => .ok (if b then "1" else "0")
  | text _ => .error .badValue
  | number n => n.pointedText
  | dimension d => d.name
  | _ => .error .unsupported

/-- An integer in superscript glyphs, cut from a number or read from a text. -/
def superscript : Operand → Except Failure String
  | text s =>
    match Literal.int? s with
    | some n => superscriptText n
    | none => .error .badValue
  | x =>
    match x.number? with
    | some n => do superscriptText (← n.truncate)
    | none => .error .unsupported

end Metrology.Operand
