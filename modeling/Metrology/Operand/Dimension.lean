import Metrology.Operand.Basic

namespace Metrology.Operand

def dimensionOfItems (items : List Operand) : Except Failure Dimension := do
  match Dimension.ofList? (← items.mapM index) with
  | some d => .ok d
  | none => .error .axisCount

/-- The characters of a text are items too, but no integers. -/
def toDimension : Operand → Except Failure Dimension
  | dimension d => .ok d
  | list items | tuple items => dimensionOfItems items
  | text s => dimensionOfItems (s.toList.map fun c => text (String.ofList [c]))
  | _ => .error .unsupported

/-- A name that exponents cannot be given under. -/
def reservedName : String := "cls"

/-- Exponents under the names of their axes. The last one of an axis counts. All names are looked
at before the exponents. -/
def dimensionOfNamed (items : List (String × Operand)) : Except Failure Dimension := do
  if items.any (·.1 == reservedName) then throw .unsupported
  let named ← items.mapM fun item =>
    match Axis.ofName? item.1 with
    | some axis => .ok (axis, item.2)
    | none => .error (.unknownAxis item.1)
  dimensionOfItems (Axis.all.map fun axis => (named.reverse.lookup axis).getD (int 0))

/-- A dimension scaled by what should be an integer. -/
def scaleDimension (d : Dimension) (k : Operand) : Except Failure Dimension :=
  match k.index with
  | .ok n => .ok (d.scale n)
  | .error _ => .error (.scaleKind k.kindName)

/-- What a dimension tells under a name. -/
def dimensionAttribute (d : Dimension) (name : String) : Except Failure Operand :=
  match Axis.ofName? name with
  | some axis => .ok (int (d.exponent axis))
  | none =>
    if name = "name" then d.name.map text
    else if name = "is_dimensionless" then .ok (bool d.isDimensionless)
    else .error (.unknownAttribute name)

end Metrology.Operand
