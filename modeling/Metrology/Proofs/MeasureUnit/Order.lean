import Metrology.Calculator.Operators
import Metrology.Proofs.MeasureUnit.Group
import Metrology.Proofs.Number.Value

namespace Metrology

/-- A unit whose factor is a finite number, of whatever kind. -/
structure FiniteUnit where
  dimension : Dimension
  factor : Number
  value : Rat
  value_eq : factor.value? = some value

namespace FiniteUnit

def unit (u : FiniteUnit) : MeasureUnit Operand :=
  ⟨u.dimension, .number u.factor⟩

def operand (u : FiniteUnit) : Operand :=
  .unit u.unit

/-- How the exact values of two units compare, if they are of one dimension. -/
def compare? (a b : FiniteUnit) : Option Ordering :=
  if a.dimension = b.dimension then some (Number.compareRat a.value b.value) else none

theorem lt_factor (a b : FiniteUnit) :
    Arithmetic.lt a.unit.factor b.unit.factor = .ok (decide (a.value < b.value)) := by
  have ho : Arithmetic.order a.unit.factor b.unit.factor =
      .ok (some (Number.compareRat a.value b.value)) := Number.order_eq a.value_eq b.value_eq
  rw [Arithmetic.lt, ho]
  refine congrArg Except.ok (Bool.eq_iff_iff.mpr ?_)
  simp [Number.compareRat_lt]

theorem partialCompare_unit (a b : FiniteUnit) :
    a.unit.partialCompare b.unit = .ok (a.compare? b) := by
  unfold MeasureUnit.partialCompare compare?
  rw [lt_factor, lt_factor]
  change (if a.dimension ≠ b.dimension then _ else _) = _
  by_cases h : a.dimension = b.dimension
  · rw [if_neg (not_not.mpr h), if_pos h]
    rcases lt_trichotomy a.value b.value with hv | hv | hv
    · simp only [hv, decide_true, Number.compareRat_lt.mpr hv]
      rfl
    · simp only [hv, lt_irrefl, decide_false, Number.compareRat_eq_iff.mpr]
      rfl
    · simp only [hv, hv.not_gt, decide_true, decide_false, Number.compareRat_gt.mpr hv]
      rfl
  · rw [if_pos h, if_neg h]
    rfl

theorem apply_relation (r : Relation) (a b : FiniteUnit) :
    Operand.apply (.relation r) a.operand b.operand = .ok (.bool (r.holds (a.compare? b))) := by
  have ho : Arithmetic.order a.operand b.operand = a.unit.partialCompare b.unit := rfl
  rw [Operand.apply, ho, partialCompare_unit]
  rfl

/-- Whether two units stand in a relation. -/
def Stands (r : Relation) (a b : FiniteUnit) : Prop :=
  Operand.apply (.relation r) a.operand b.operand = .ok (.bool true)

theorem stands_iff {r : Relation} {a b : FiniteUnit} :
    Stands r a b ↔ r.holds (a.compare? b) = true := by
  simp [Stands, apply_relation]

theorem compare?_of_eq {a b : FiniteUnit} (h : a.dimension = b.dimension) :
    a.compare? b = some (Number.compareRat a.value b.value) :=
  if_pos h

theorem compare?_of_ne {a b : FiniteUnit} (h : a.dimension ≠ b.dimension) :
    a.compare? b = none :=
  if_neg h

theorem compare?_swap (a b : FiniteUnit) : b.compare? a = (a.compare? b).map Ordering.swap := by
  by_cases h : a.dimension = b.dimension
  · rw [compare?_of_eq h, compare?_of_eq h.symm, Option.map_some, Number.compareRat_swap]
  · rw [compare?_of_ne h, compare?_of_ne (Ne.symm h)]
    rfl

theorem compare?_eq_some {a b : FiniteUnit} {o : Ordering} :
    a.compare? b = some o ↔
      a.dimension = b.dimension ∧ Number.compareRat a.value b.value = o := by
  by_cases h : a.dimension = b.dimension
  · simp [compare?_of_eq h, h]
  · simp [compare?_of_ne h, h]

/-- In one dimension the relations are those of the exact values. -/
theorem stands_iff_value {r : Relation} {a b : FiniteUnit} : Stands r a b ↔
    a.dimension = b.dimension ∧ match r with
      | .lt => a.value < b.value
      | .le => a.value ≤ b.value
      | .gt => b.value < a.value
      | .ge => b.value ≤ a.value := by
  rw [stands_iff]
  by_cases h : a.dimension = b.dimension
  · rw [compare?_of_eq h]
    rcases lt_trichotomy a.value b.value with hv | hv | hv
    · rw [Number.compareRat_lt.mpr hv]
      cases r <;> simp [Relation.holds, h, hv, hv.le, hv.not_gt, hv.not_ge]
    · rw [Number.compareRat_eq_iff.mpr hv]
      cases r <;> simp [Relation.holds, h, hv]
    · rw [Number.compareRat_gt.mpr hv]
      cases r <;> simp [Relation.holds, h, hv, hv.le, hv.not_gt, hv.not_ge]
  · rw [compare?_of_ne h]
    simp [Relation.holds, h]

/-- What the order promises of any three finite units. -/
structure OrderLaws (a b c : FiniteUnit) : Prop where
  incomparable : a.unit.partialCompare b.unit = .ok none ↔ a.dimension ≠ b.dimension
  /-- Otherwise the two compare as the sign of their exact difference says. -/
  sign : a.dimension = b.dimension →
    a.unit.partialCompare b.unit = .ok (some (Number.compareRat (a.value - b.value) 0))
  swap : b.unit.partialCompare a.unit =
    (a.unit.partialCompare b.unit).map (Option.map Ordering.swap)
  compare_trans : ∀ o, a.unit.partialCompare b.unit = .ok (some o) →
    b.unit.partialCompare c.unit = .ok (some o) → a.unit.partialCompare c.unit = .ok (some o)
  trans : ∀ r, Stands r a b → Stands r b c → Stands r a c
  trichotomy : a.dimension = b.dimension →
    (Stands .lt a b ∧ ¬Stands .lt b a ∧ a.unit.partialCompare b.unit ≠ .ok (some .eq)) ∨
    (¬Stands .lt a b ∧ Stands .lt b a ∧ a.unit.partialCompare b.unit ≠ .ok (some .eq)) ∨
    (¬Stands .lt a b ∧ ¬Stands .lt b a ∧ a.unit.partialCompare b.unit = .ok (some .eq))
  le_iff : a.dimension = b.dimension → (Stands .le a b ↔ ¬Stands .lt b a)
  ge_iff : a.dimension = b.dimension → (Stands .ge a b ↔ ¬Stands .lt a b)
  gt_iff : Stands .gt a b ↔ Stands .lt b a
  answered : ∀ r, ∃ answer, Operand.apply (.relation r) a.operand b.operand = .ok (.bool answer)
  apart : a.dimension ≠ b.dimension →
    ∀ r, Operand.apply (.relation r) a.operand b.operand = .ok (.bool false)

theorem order_laws (a b c : FiniteUnit) : OrderLaws a b c where
  incomparable := by
    rw [partialCompare_unit, Except.ok.injEq]
    by_cases h : a.dimension = b.dimension
    · simp [compare?_of_eq h, h]
    · simp [compare?_of_ne h, h]
  sign := by
    intro h
    rw [partialCompare_unit, compare?_of_eq h, Number.compareRat_sub]
  swap := by
    rw [partialCompare_unit, partialCompare_unit, compare?_swap]
    rfl
  compare_trans := by
    simp only [partialCompare_unit, Except.ok.injEq, compare?_eq_some]
    intro o hab hbc
    refine ⟨hab.1.trans hbc.1, ?_⟩
    cases o with
    | lt =>
      rw [Number.compareRat_lt] at hab hbc ⊢
      exact lt_trans hab.2 hbc.2
    | eq =>
      rw [Number.compareRat_eq_iff] at hab hbc ⊢
      exact hab.2.trans hbc.2
    | gt =>
      rw [Number.compareRat_gt] at hab hbc ⊢
      exact lt_trans hbc.2 hab.2
  trans := by
    simp only [stands_iff_value]
    intro r hab hbc
    refine ⟨hab.1.trans hbc.1, ?_⟩
    cases r with
    | lt => exact lt_trans hab.2 hbc.2
    | le => exact le_trans hab.2 hbc.2
    | gt => exact lt_trans hbc.2 hab.2
    | ge => exact le_trans hbc.2 hab.2
  trichotomy := by
    intro h
    have hab : Stands .lt a b ↔ a.value < b.value := stands_iff_value.trans (and_iff_right h)
    have hba : Stands .lt b a ↔ b.value < a.value := stands_iff_value.trans (and_iff_right h.symm)
    have heq : a.unit.partialCompare b.unit = .ok (some .eq) ↔ a.value = b.value := by
      simp [partialCompare_unit, compare?_of_eq h, Number.compareRat_eq_iff]
    rw [hab, hba, ne_eq, heq]
    rcases lt_trichotomy a.value b.value with hv | hv | hv
    · simp [hv, hv.not_gt, hv.ne]
    · simp [hv]
    · simp [hv, hv.not_gt, hv.ne']
  le_iff := by
    intro h
    simp [stands_iff_value, h]
  ge_iff := by
    intro h
    simp [stands_iff_value, h]
  gt_iff := by
    simp [stands_iff_value, eq_comm]
  answered := by
    intro r
    exact ⟨_, apply_relation r a b⟩
  apart := by
    intro h r
    rw [apply_relation, compare?_of_ne h]
    rfl

end FiniteUnit

/-- A unit with a positive fraction for its factor. -/
structure PositiveUnit extends RatioUnit where
  positive : 0 < factor

namespace PositiveUnit

def proper (u : PositiveUnit) : ProperUnit :=
  ⟨u.toRatioUnit, u.positive.ne'⟩

def finite (u : PositiveUnit) : FiniteUnit :=
  ⟨u.dimension, .ratio u.factor, u.factor, rfl⟩

end PositiveUnit

/-- Results of operations compare as the units that they are. -/
theorem ProperUnit.lt_of_results {x y : Except Failure (MeasureUnit Operand)} {u v : ProperUnit}
    (hx : x = .ok u.unit) (hy : y = .ok v.unit) (hd : u.dimension = v.dimension)
    (hf : u.factor < v.factor) :
    (do Operand.apply (.relation .lt) (.unit (← x)) (.unit (← y))) = .ok (.bool true) := by
  let a : FiniteUnit := ⟨u.dimension, .ratio u.factor, u.factor, rfl⟩
  let b : FiniteUnit := ⟨v.dimension, .ratio v.factor, v.factor, rfl⟩
  have hstands : FiniteUnit.Stands .lt a b := FiniteUnit.stands_iff_value.mpr ⟨hd, hf⟩
  rw [hx, hy]
  exact hstands

namespace FiniteUnit

/-- What becomes of the order of two units when they are multiplied, divided by, and raised to a
power. -/
structure Monotone (a b c : PositiveUnit) : Prop where
  compose : (do
    Operand.apply (.relation .lt) (.unit (← a.unit.compose c.unit))
      (.unit (← b.unit.compose c.unit))) = .ok (.bool true)
  invertCombine : (do
    Operand.apply (.relation .lt) (.unit (← c.unit.invertCombine b.unit))
      (.unit (← c.unit.invertCombine a.unit))) = .ok (.bool true)
  power : ∀ n : Int, 0 < n → (do
    Operand.apply (.relation .lt) (.unit (← a.unit.power n)) (.unit (← b.unit.power n))) =
      .ok (.bool true)

theorem monotone {a b : PositiveUnit} (h : Stands .lt a.finite b.finite) (c : PositiveUnit) :
    Monotone a b c := by
  obtain ⟨hdim, hlt⟩ := stands_iff_value.mp h
  change a.dimension = b.dimension at hdim
  change a.factor < b.factor at hlt
  refine ⟨?_, ?_, ?_⟩
  · apply ProperUnit.lt_of_results (a.proper.compose_unit c.proper)
      (b.proper.compose_unit c.proper)
    · exact congrArg (· + c.dimension) hdim
    · exact mul_lt_mul_of_pos_right hlt c.positive
  · apply ProperUnit.lt_of_results (c.proper.invertCombine_unit b.proper)
      (c.proper.invertCombine_unit a.proper)
    · exact congrArg (c.dimension - ·) hdim.symm
    · exact div_lt_div_of_pos_left c.positive a.positive hlt
  · intro n hn
    apply ProperUnit.lt_of_results (a.proper.power_unit n) (b.proper.power_unit n)
    · exact congrArg (·.scale n) hdim
    · exact zpow_lt_zpow_left₀ hn a.positive.le hlt

/-- Finite units of one dimension are in the order of their exact values, a total one, and those of
different dimensions do not compare. The order agrees with the algebra of positive units. -/
theorem ordered_by_value (a b c : FiniteUnit) (p q r : PositiveUnit) :
    OrderLaws a b c ∧ (Stands .lt p.finite q.finite → Monotone p q r) := by
  refine ⟨order_laws a b c, ?_⟩
  intro h
  exact monotone h r

def third : FiniteUnit :=
  ⟨.power .length 1, .ratio (1 / 3), 1 / 3, rfl⟩

/-- One half, written as a decimal with a trailing zero. -/
def half : FiniteUnit :=
  ⟨.power .length 1, .decimal (.finite false 50 (-2)), 1 / 2, by
    simp [Number.value?, Decimal.value?, Decimal.signed, scaled]; norm_num⟩

def whole : FiniteUnit :=
  ⟨.power .length 1, .int 1, 1, rfl⟩

def millimetre : PositiveUnit :=
  ⟨⟨.power .length 1, 1 / 1000⟩, by norm_num⟩

def metre : PositiveUnit :=
  ⟨⟨.power .length 1, 1⟩, by norm_num⟩

def hour : PositiveUnit :=
  ⟨⟨.power .time 1, 3600⟩, by norm_num⟩

theorem ordered_by_value_mixed : Stands .lt millimetre.finite metre.finite ∧
    OrderLaws third half whole ∧ Monotone millimetre metre hour := by
  have h : Stands .lt millimetre.finite metre.finite := by
    apply stands_iff_value.mpr
    refine ⟨rfl, ?_⟩
    change (1 / 1000 : Rat) < 1
    norm_num
  obtain ⟨hlaws, hmonotone⟩ := ordered_by_value third half whole millimetre metre hour
  exact ⟨h, hlaws, hmonotone h⟩

end FiniteUnit

end Metrology
