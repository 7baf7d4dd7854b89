namespace Metrology

inductive Axis
  | length
  | time
  | mass
  | current
  | temperature
  | substanceAmount
  | luminousIntensity
  deriving DecidableEq

@[ext] structure Dimension where
  length : Int := 0
  time : Int := 0
  mass : Int := 0
  current : Int := 0
  temperature : Int := 0
  substanceAmount : Int := 0
  luminousIntensity : Int := 0
  deriving DecidableEq

namespace Axis

/-- The order in which exponents are given. -/
def all : List Axis :=
  [length, time, mass, current, temperature, substanceAmount, luminousIntensity]

/-- The order in which factors are written: mass comes first. -/
def written : List Axis :=
  [mass, length, time, current, temperature, substanceAmount, luminousIntensity]

def name : Axis → String
  | length => "length"
  | time => "time"
  | mass => "mass"
  | current => "current"
  | temperature => "temperature"
  | substanceAmount => "substance_amount"
  | luminousIntensity => "luminous_intensity"

/-- The name in running text. -/
def label : Axis → String
  | substanceAmount => "substance amount"
  | luminousIntensity => "luminous intensity"
  | axis => axis.name

def ofName? (name : String) : Option Axis :=
  all.find? (·.name == name)

theorem mem_all (axis : Axis) : axis ∈ all := by
  cases axis <;> decide

theorem mem_written (axis : Axis) : axis ∈ written := by
  cases axis <;> decide

end Axis

namespace Dimension

def exponent (d : Dimension) : Axis → Int
  | .length => d.length
  | .time => d.time
  | .mass => d.mass
  | .current => d.current
  | .temperature => d.temperature
  | .substanceAmount => d.substanceAmount
  | .luminousIntensity => d.luminousIntensity

def ofExponents (f : Axis → Int) : Dimension :=
  ⟨f .length, f .time, f .mass, f .current, f .temperature, f .substanceAmount,
    f .luminousIntensity⟩

/-- Exponents in the order of `Axis.all`. -/
def exponents (d : Dimension) : List Int :=
  Axis.all.map d.exponent

def ofList? : List Int → Option Dimension
  | [l, t, m, c, k, n, j] => some ⟨l, t, m, c, k, n, j⟩
  | _ => none

def add (a b : Dimension) : Dimension :=
  ofExponents fun axis => a.exponent axis + b.exponent axis

def sub (a b : Dimension) : Dimension :=
  ofExponents fun axis => a.exponent axis - b.exponent axis

def scale (d : Dimension) (k : Int) : Dimension :=
  ofExponents fun axis => d.exponent axis * k

instance : Zero Dimension := ⟨{}⟩
instance : Add Dimension := ⟨add⟩
instance : Sub Dimension := ⟨sub⟩
instance : Neg Dimension := ⟨fun d => d.scale (-1)⟩

/-- A base quantity raised to a power. -/
def power (axis : Axis) (k : Int) : Dimension :=
  ofExponents fun a => if a = axis then k else 0

def isDimensionless (d : Dimension) : Bool :=
  d.exponents.all (· == 0)

@[simp] theorem exponent_ofExponents (f : Axis → Int) (axis : Axis) :
    (ofExponents f).exponent axis = f axis := by
  cases axis <;> rfl

@[simp] theorem exponent_zero (axis : Axis) : (0 : Dimension).exponent axis = 0 := by
  cases axis <;> rfl

@[simp] theorem exponent_add (a b : Dimension) (axis : Axis) :
    (a + b).exponent axis = a.exponent axis + b.exponent axis :=
  exponent_ofExponents _ axis

@[simp] theorem exponent_sub (a b : Dimension) (axis : Axis) :
    (a - b).exponent axis = a.exponent axis - b.exponent axis :=
  exponent_ofExponents _ axis

@[simp] theorem exponent_scale (d : Dimension) (k : Int) (axis : Axis) :
    (d.scale k).exponent axis = d.exponent axis * k :=
  exponent_ofExponents _ axis

theorem eq_of_exponent_eq {a b : Dimension} (h : ∀ axis, a.exponent axis = b.exponent axis) :
    a = b := by
  ext
  · exact h .length
  · exact h .time
  · exact h .mass
  · exact h .current
  · exact h .temperature
  · exact h .substanceAmount
  · exact h .luminousIntensity

theorem isDimensionless_iff (d : Dimension) : d.isDimensionless = true ↔ d = 0 := by
  constructor
  · intro h
    have all : ∀ axis, d.exponent axis = 0 := by
      simpa [isDimensionless, exponents] using fun axis => List.all_eq_true.mp h _
        (List.mem_map_of_mem (Axis.mem_all axis))
    exact eq_of_exponent_eq fun axis => by rw [all axis, exponent_zero]
  · rintro rfl
    decide

end Dimension

end Metrology
