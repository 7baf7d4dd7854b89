import Metrology.Failure

namespace Metrology

/-- What magnitudes and factors have to offer: arithmetic that may fail, an equality, and an order in
which two of them may stand in no relation. -/
class Arithmetic (α : Type) where
  add : α → α → Except Failure α
  sub : α → α → Except Failure α
  mul : α → α → Except Failure α
  div : α → α → Except Failure α
  pow : α → Int → Except Failure α
  neg : α → Except Failure α
  abs : α → Except Failure α
  equal : α → α → Except Failure Bool
  order : α → α → Except Failure (Option Ordering)
  toFloat : α → Except Failure Float

namespace Arithmetic

def lt {α : Type} [Arithmetic α] (a b : α) : Except Failure Bool :=
  (order a b).map (· == some .lt)

/-- No operation is defined. -/
@[reducible] def undefined (α : Type) : Arithmetic α where
  add _ _ := .error .unsupported
  sub _ _ := .error .unsupported
  mul _ _ := .error .unsupported
  div _ _ := .error .unsupported
  pow _ _ := .error .unsupported
  neg _ := .error .unsupported
  abs _ := .error .unsupported
  equal _ _ := .error .unsupported
  order _ _ := .error .unsupported
  toFloat _ := .error .unsupported

end Arithmetic

end Metrology
