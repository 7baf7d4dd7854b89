import Metrology.Dimension.Basic

namespace Metrology.Physics

def length : Dimension := .power .length 1
def time : Dimension := .power .time 1
def mass : Dimension := .power .mass 1
def current : Dimension := .power .current 1
def temperature : Dimension := .power .temperature 1
def amountOfSubstance : Dimension := .power .substanceAmount 1
def luminousIntensity : Dimension := .power .luminousIntensity 1

def area : Dimension := length.scale 2
def volume : Dimension := length.scale 3
def density : Dimension := mass - volume
def frequency : Dimension := -time
def velocity : Dimension := length - time
def acceleration : Dimension := velocity - time
def momentum : Dimension := mass + velocity
def force : Dimension := mass + acceleration
def action : Dimension := momentum + length
def energy : Dimension := force + length
def molarMass : Dimension := mass - amountOfSubstance
def concentration : Dimension := amountOfSubstance - volume
def power : Dimension := energy - time
def voltage : Dimension := power - current
def resistance : Dimension := voltage - current
def charge : Dimension := current + time
def pressure : Dimension := force - area
def capacitance : Dimension := charge - voltage
def conductance : Dimension := -resistance
def magneticFlux : Dimension := voltage + time
def magneticFluxDensity : Dimension := magneticFlux - area
def inductance : Dimension := magneticFlux - current
def illuminance : Dimension := luminousIntensity - area
def catalyticActivity : Dimension := amountOfSubstance - time

/-- Display names, in the order of their listing. -/
def names : List (Dimension × String) := [
  (mass, "Mass"),
  (length, "Length"),
  (time, "Time"),
  (current, "Current"),
  (temperature, "Temperature"),
  (amountOfSubstance, "Amount of Substance"),
  (luminousIntensity, "Luminous Intensity"),
  (area, "Area"),
  (volume, "Volume"),
  (density, "Density"),
  (frequency, "Frequency"),
  (velocity, "Velocity"),
  (acceleration, "Acceleration"),
  (momentum, "Momentum"),
  (force, "Force"),
  (action, "Action"),
  (energy, "Energy"),
  (molarMass, "Molar Mass"),
  (concentration, "Concentration"),
  (power, "Power"),
  (voltage, "Voltage"),
  (resistance, "Resistance"),
  (charge, "Charge"),
  (pressure, "Pressure"),
  (capacitance, "Capacitance"),
  (conductance, "Conductance"),
  (magneticFlux, "Magnetic Flux"),
  (magneticFluxDensity, "Magnetic Flux Density"),
  (inductance, "Inductance"),
  (illuminance, "Illuminance"),
  (catalyticActivity, "Catalytic Activity")]

/-- A display name in capitals, with underscores for spaces. -/
def identifier (name : String) : String :=
  String.ofList (name.toList.map fun c => if c = ' ' then '_' else c.toUpper)

/-- The dimension of an identifier. The one without exponents has two. -/
def constant? (text : String) : Option Dimension :=
  if text = "DIMENSIONLESS" ∨ text = "DIM_0" then some 0
  else (names.find? fun entry => identifier entry.2 == text).map (·.1)

/-- No two names share a dimension, and none names the dimension without exponents. -/
theorem names_nodup : ((0 :: names.map (·.1)).Nodup) := by decide

end Metrology.Physics
