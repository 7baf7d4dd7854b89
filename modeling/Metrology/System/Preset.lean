import Metrology.System.Basic

namespace Metrology.UnitSystem

/-- Symbol, factor and dimension. -/
def presetUnits : List (String × String × Dimension) := [
  ("J", "1", Physics.energy),
  ("min", "60", Physics.time),
  ("h", "3600", Physics.time),
  ("d", "86400", Physics.time),
  ("ms", "1e-3", Physics.time),
  ("km", "1e3", Physics.length),
  ("cm", "1e-2", Physics.length),
  ("mm", "1e-3", Physics.length),
  ("g", "1e-3", Physics.mass),
  ("mg", "1e-6", Physics.mass),
  ("Hz", "1", Physics.frequency),
  ("L", "1e-3", Physics.volume),
  ("mL", "1e-6", Physics.volume),
  ("M", "1e3", Physics.concentration),
  ("N", "1", Physics.force),
  ("W", "1", Physics.power),
  ("V", "1", Physics.voltage),
  ("Ω", "1", Physics.resistance),
  ("C", "1", Physics.charge),
  ("Pa", "1", Physics.pressure),
  ("F", "1", Physics.capacitance),
  ("S", "1", Physics.conductance),
  ("Wb", "1", Physics.magneticFlux),
  ("T", "1", Physics.magneticFluxDensity),
  ("H", "1", Physics.inductance),
  ("lx", "1", Physics.illuminance),
  ("kat", "1", Physics.catalyticActivity)]

/-- The factor is a literal of the kind of numbers that the system computes in, so that exact kinds
stay exact. -/
def addPreset (s : UnitSystem) (item : String × String × Dimension) :
    Except Failure UnitSystem := do
  let factor ← s.number.read item.2.1
  return s.register item.1 (.unit ⟨item.2.2, factor⟩)

/-- Fails for a kind of numbers that cannot read all the factors. -/
def si (number : NumberKind) : Except Failure UnitSystem :=
  presetUnits.foldlM addPreset (withBase .si number)

end Metrology.UnitSystem
