import Metrology.Calculator.Members
import Metrology.Calculator.Operators
import Metrology.Proofs.Number.Decimal.Quotients
import Metrology.Proofs.Quantity.Exact
import Metrology.Proofs.Traversal

namespace Metrology

open Decimal (Rounds SameValue)
open ExactQuantity (inner)

def Operand.ofDecimal (d : Decimal) : Operand :=
  .number (.decimal d)

theorem map_number (x : Except Failure Decimal) :
    (x.map Number.decimal).map Operand.number = x.map Operand.ofDecimal := by
  cases x <;> rfl

theorem div_ofDecimal (a b : Decimal) :
    Arithmetic.div (Operand.ofDecimal a) (Operand.ofDecimal b) = (a.div b).map Operand.ofDecimal :=
  map_number (a.div b)

theorem mul_ofDecimal (a b : Decimal) :
    Arithmetic.mul (Operand.ofDecimal a) (Operand.ofDecimal b) = (a.mul b).map Operand.ofDecimal :=
  map_number (a.mul b)

/-- A unit whose factor is a finite decimal other than zero. -/
structure DecimalUnit where
  dimension : Dimension
  factor : Decimal
  value : Rat
  factor_value : factor.value? = some value
  nonzero : value ≠ 0

namespace DecimalUnit

def unit (u : DecimalUnit) : MeasureUnit Operand :=
  ⟨u.dimension, .ofDecimal u.factor⟩

def operand (u : DecimalUnit) : Operand :=
  .unit u.unit

/-- So much of a unit. -/
def times (u : DecimalUnit) (d : Decimal) : Operand :=
  .quantity ⟨.ofDecimal d, u.unit⟩

theorem div_self (u : DecimalUnit) : u.factor.div u.factor = .ok (.finite false 1 0) := by
  have hvalue := u.factor_value
  cases hf : u.factor with
  | finite s c e =>
    apply Decimal.div_self
    intro hc
    rw [hf, hc] at hvalue
    exact u.nonzero (by simpa [Decimal.value?] using hvalue.symm)
  | infinite s =>
    rw [hf] at hvalue
    cases hvalue
  | nan s g p =>
    rw [hf] at hvalue
    cases hvalue

theorem equal_of_magnitude (u : DecimalUnit) {m n : Number} (h : m.equal n = .ok true) :
    Operand.apply .eq (.quantity ⟨.number m, u.unit⟩) (.quantity ⟨.number n, u.unit⟩) =
      .ok (.bool true) := by
  have hm : inner.equal (.number m) (.number n) = .ok true := h
  have hf : inner.equal u.unit.factor u.unit.factor = .ok (decide (u.value = u.value)) :=
    Number.equal_eq u.factor_value u.factor_value
  change (@Quantity.equal Operand inner ⟨.number m, u.unit⟩ ⟨.number n, u.unit⟩).map
    Operand.bool = _
  unfold Quantity.equal MeasureUnit.equal
  rw [hm, if_pos rfl, hf]
  simp only [decide_true]
  rfl

/-- A cast multiplies by the quotient of the factors. -/
theorem cast_eq (m : Operand) {s t : DecimalUnit} (h : s.dimension = t.dimension) :
    (Operand.quantity ⟨m, s.unit⟩).cast t.operand = (do
      let r ← s.factor.div t.factor
      (Arithmetic.mul m (.ofDecimal r)).map fun x => .quantity ⟨x, t.unit⟩) := by
  have hd : Arithmetic.div s.unit.factor t.unit.factor =
      (s.factor.div t.factor).map .ofDecimal := div_ofDecimal _ _
  have hsame : ¬t.unit.dimension ≠ s.unit.dimension := not_not.mpr h.symm
  change (if t.unit.dimension ≠ s.unit.dimension then _ else _) = _
  rw [if_neg hsame]
  change (Quantity.cast ⟨m, s.unit⟩ t.unit).map Operand.quantity = _
  unfold Quantity.cast
  change Except.map _ (if t.unit.dimension ≠ s.unit.dimension then _ else _) = _
  rw [if_neg hsame]
  dsimp only
  rw [hd]
  cases s.factor.div t.factor with
  | error e => rfl
  | ok r =>
    change Except.map _ ((Arithmetic.mul m (.ofDecimal r)).bind _) =
      (Arithmetic.mul m (.ofDecimal r)).map _
    cases Arithmetic.mul m (.ofDecimal r) <;> rfl

end DecimalUnit

/-- A finite decimal in a unit whose factor is a finite decimal other than zero. -/
structure DecimalQuantity where
  magnitude : Decimal
  unit : DecimalUnit
  amount : Rat
  magnitude_value : magnitude.value? = some amount

namespace DecimalQuantity

def quantity (v : DecimalQuantity) : Quantity Operand :=
  ⟨.ofDecimal v.magnitude, v.unit.unit⟩

def operand (v : DecimalQuantity) : Operand :=
  .quantity v.quantity

/-- The magnitude times the quotient of the factors. -/
def converted (v : DecimalQuantity) (u : DecimalUnit) : Except Failure Decimal := do
  v.magnitude.mul (← v.unit.factor.div u.factor)

theorem cast_operand {v : DecimalQuantity} {u : DecimalUnit}
    (h : v.unit.dimension = u.dimension) :
    v.operand.cast u.operand = (v.converted u).map u.times := by
  change (Operand.quantity ⟨.ofDecimal v.magnitude, v.unit.unit⟩).cast u.operand = _
  rw [DecimalUnit.cast_eq _ h]
  unfold converted
  cases v.unit.factor.div u.factor with
  | error e => rfl
  | ok r =>
    change (Arithmetic.mul (Operand.ofDecimal v.magnitude) (.ofDecimal r)).map _ =
      (v.magnitude.mul r).map _
    rw [mul_ofDecimal]
    cases v.magnitude.mul r <;> rfl

/-- The rescaling inside of a sum, a difference or a comparison: magnitudes and factors are nested
one level deeper than the quantities. -/
def rescaled (v w : DecimalQuantity) : Except Failure Operand :=
  @Quantity.rescaled Operand inner v.quantity w.quantity

theorem rescaled_eq (v w : DecimalQuantity) :
    v.rescaled w = if w.unit.value = v.unit.value then .ok (.ofDecimal w.magnitude)
      else (w.converted v.unit).map .ofDecimal := by
  have he : inner.equal w.quantity.unit.factor v.quantity.unit.factor =
      .ok (decide (w.unit.value = v.unit.value)) :=
    Number.equal_eq w.unit.factor_value v.unit.factor_value
  have hd : inner.div w.quantity.unit.factor v.quantity.unit.factor =
      (w.unit.factor.div v.unit.factor).map .ofDecimal := div_ofDecimal _ _
  have hm (r : Decimal) : inner.mul w.quantity.magnitude (.ofDecimal r) =
      (w.magnitude.mul r).map .ofDecimal := mul_ofDecimal _ _
  unfold rescaled Quantity.rescaled converted
  rw [he, hd]
  by_cases h : w.unit.value = v.unit.value
  · simp [h]
    rfl
  · simp only [h]
    cases w.unit.factor.div v.unit.factor with
    | error e => rfl
    | ok r => exact hm r

theorem converted_within (v : DecimalQuantity) (u : DecimalUnit) :
    Decimal.Within (v.converted u) := by
  unfold converted
  rcases Decimal.div_within v.unit.factor_value u.factor_value u.nonzero with ⟨s, c, e, hr⟩ | hr
  · rw [hr]
    exact (Decimal.mul_rounds v.magnitude_value rfl).within
  · rw [hr]
    exact .inr rfl

/-- Between equal factors the quotient is one, and the product by one rounds nothing away. -/
theorem converted_of_value {v : DecimalQuantity} {u : DecimalUnit} (h : v.unit.value = u.value)
    (hv : v.magnitude.Normal) : ∃ d, v.converted u = .ok d ∧ d.value? = some v.amount := by
  obtain ⟨r, hr, hone⟩ := Decimal.div_of_value (h ▸ v.unit.factor_value) u.factor_value u.nonzero
  have hrounds := Decimal.mul_rounds v.magnitude_value hone
  rw [mul_one] at hrounds
  unfold converted
  rw [hr]
  exact hv.kept v.magnitude_value hrounds

/-- The rescaled magnitude and the converted one fail alike, or are of one value. -/
theorem rescaled_cases (v w : DecimalQuantity) (hw : w.magnitude.Normal) :
    (∃ e, w.converted v.unit = .error e ∧ v.rescaled w = .error e) ∨
      ∃ x y q, w.converted v.unit = .ok y ∧
        v.rescaled w = .ok (.ofDecimal x) ∧
        x.value? = some q ∧ y.value? = some q := by
  rw [rescaled_eq]
  by_cases h : w.unit.value = v.unit.value
  · obtain ⟨y, hy, hvalue⟩ := converted_of_value h hw
    rw [if_pos h]
    exact .inr ⟨w.magnitude, y, w.amount, hy, rfl, w.magnitude_value, hvalue⟩
  · rw [if_neg h]
    rcases w.converted_within v.unit with ⟨s, c, e, hy⟩ | hy
    · rw [hy]
      exact .inr ⟨_, _, _, rfl, rfl, rfl, rfl⟩
    · rw [hy]
      exact .inl ⟨_, rfl, rfl⟩

/-- The same failure, or equal quantities. -/
def Same (x y : Except Failure Operand) : Prop :=
  (x = .error .decimalOverflow ∧ y = .error .decimalOverflow) ∨
    ∃ a b, x = .ok a ∧ y = .ok b ∧ Operand.apply .eq a b = .ok (.bool true)

theorem same_times (u : DecimalUnit) {x y : Except Failure Decimal} {q : Rat} (hx : Rounds q x)
    (hy : Rounds q y) : Same (x.map u.times) (y.map u.times) := by
  have hxy := hx.unique hy
  rcases hy.within with ⟨s, c, e, rfl⟩ | rfl
  · right
    obtain ⟨a, rfl, ha⟩ := hxy.ok
    have hvalue : (Number.decimal a).value? = some (scaled (Decimal.signed s c) e) := ha
    refine ⟨_, _, rfl, rfl, u.equal_of_magnitude ?_⟩
    rw [Number.equal_eq hvalue rfl, decide_eq_true rfl]
  · left
    rw [hxy.error]
    exact ⟨rfl, rfl⟩

/-- The operators that bring the second quantity into the unit of the first. -/
inductive Rescales : Operator → Prop
  | add : Rescales .add
  | sub : Rescales .sub
  | relation (r : Relation) : Rescales (.relation r)

section

variable {v w : DecimalQuantity} (h : w.unit.dimension = v.unit.dimension)

include h

theorem requireSameDimension_ok (operation : String) :
    Quantity.requireSameDimension operation v.quantity w.quantity = .ok ⟨⟩ :=
  if_pos h.symm

theorem apply_error {e : Failure} (he : v.rescaled w = .error e) {o : Operator}
    (ho : Rescales o) : Operand.apply o v.operand w.operand = .error e := by
  unfold rescaled at he
  cases ho with
  | add =>
    change (@Quantity.add Operand inner v.quantity w.quantity).map Operand.quantity = _
    unfold Quantity.add
    rw [requireSameDimension_ok h, he]
    rfl
  | sub =>
    change (@Quantity.sub Operand inner v.quantity w.quantity).map Operand.quantity = _
    unfold Quantity.sub
    rw [requireSameDimension_ok h, he]
    rfl
  | relation r =>
    change (@Quantity.order Operand inner v.quantity w.quantity).map _ = _
    unfold Quantity.order
    rw [requireSameDimension_ok h, he]
    rfl

variable {x : Decimal} (hx : v.rescaled w = .ok (.ofDecimal x))

include hx

/-- Sums and differences combine the first magnitude with the rescaled second one. -/
theorem combine_rescaled (name : String) {f : Operand → Operand → Except Failure Operand}
    {g : Decimal → Decimal → Except Failure Decimal}
    (hf : ∀ d e, f (.ofDecimal d) (.ofDecimal e) = (g d e).map .ofDecimal) :
    Except.map Operand.quantity (do
      Quantity.requireSameDimension name v.quantity w.quantity
      return ⟨← f v.quantity.magnitude (← v.rescaled w), v.quantity.unit⟩) =
      (g v.magnitude x).map v.unit.times := by
  rw [requireSameDimension_ok h, hx]
  change Except.map _ ((f (.ofDecimal v.magnitude) (.ofDecimal x)).bind _) = _
  rw [hf]
  cases g v.magnitude x <;> rfl

theorem apply_add :
    Operand.apply .add v.operand w.operand = (v.magnitude.add x).map v.unit.times := by
  change (@Quantity.add Operand inner v.quantity w.quantity).map Operand.quantity = _
  unfold Quantity.add
  exact combine_rescaled h hx "Add" fun d e => map_number (d.add e)

theorem apply_sub :
    Operand.apply .sub v.operand w.operand = (v.magnitude.sub x).map v.unit.times := by
  change (@Quantity.sub Operand inner v.quantity w.quantity).map Operand.quantity = _
  unfold Quantity.sub
  exact combine_rescaled h hx "Sub" fun d e => map_number (d.sub e)

theorem apply_relation {q : Rat} (hq : x.value? = some q) (r : Relation) :
    Operand.apply (.relation r) v.operand w.operand =
      .ok (.bool (r.holds (some (Number.compareRat v.amount q)))) := by
  have ho : Number.order (.decimal v.magnitude) (.decimal x) =
      .ok (some (Number.compareRat v.amount q)) := Number.order_eq v.magnitude_value hq
  unfold rescaled at hx
  change (@Quantity.order Operand inner v.quantity w.quantity).map _ = _
  unfold Quantity.order
  rw [requireSameDimension_ok h, hx]
  change Except.map _ (Number.order (.decimal v.magnitude) (.decimal x)) = _
  rw [ho]
  rfl

end

/-- What rescaling inside of an operation has in common with a cast to the unit of the first
quantity beforehand. -/
structure PathsAgree (v w : DecimalQuantity) : Prop where
  fails_iff : ∀ e, w.operand.cast v.unit.operand = .error e ↔
    v.rescaled w = .error e
  stops : ∀ e, w.operand.cast v.unit.operand = .error e →
    ∀ o, Rescales o → Operand.apply o v.operand w.operand = .error e
  add : ∀ c, w.operand.cast v.unit.operand = .ok c →
    Same (Operand.apply .add v.operand w.operand) (Operand.apply .add v.operand c)
  sub : ∀ c, w.operand.cast v.unit.operand = .ok c →
    Same (Operand.apply .sub v.operand w.operand) (Operand.apply .sub v.operand c)
  relation : ∀ c, w.operand.cast v.unit.operand = .ok c → ∀ r, ∃ answer,
    Operand.apply (.relation r) v.operand w.operand = .ok (.bool answer) ∧
      Operand.apply (.relation r) v.operand c = .ok (.bool answer)

theorem paths_agree {v w : DecimalQuantity} (h : w.unit.dimension = v.unit.dimension)
    (hw : w.magnitude.Normal) : PathsAgree v w := by
  have hcast := cast_operand h
  rcases rescaled_cases v w hw with ⟨e, hc, hr⟩ | ⟨x, y, q, hc, hr, hx, hy⟩
  · rw [hc] at hcast
    refine ⟨?_, ?_, ?_, ?_, ?_⟩
    · simp [hcast, hr, Except.map]
    · intro f hf o ho
      rw [hcast] at hf
      rw [← Except.error.inj hf]
      exact apply_error h hr ho
    · simp [hcast, Except.map]
    · simp [hcast, Except.map]
    · simp [hcast, Except.map]
  · rw [hc] at hcast
    let c : DecimalQuantity := ⟨y, v.unit, q, hy⟩
    have hdim : c.unit.dimension = v.unit.dimension := rfl
    have hrc : v.rescaled c = .ok (.ofDecimal y) := by
      rw [rescaled_eq, if_pos rfl]
    refine ⟨?_, ?_, ?_, ?_, ?_⟩
    · simp [hcast, hr, Except.map]
    · simp [hcast, Except.map]
    all_goals
      intro d hd
      rw [hcast] at hd
      obtain rfl : c.operand = d := Except.ok.inj hd
    · rw [apply_add h hr, apply_add hdim hrc]
      exact same_times v.unit (Decimal.add_rounds v.magnitude_value hx)
        (Decimal.add_rounds v.magnitude_value hy)
    · rw [apply_sub h hr, apply_sub hdim hrc]
      exact same_times v.unit (Decimal.sub_rounds v.magnitude_value hx)
        (Decimal.sub_rounds v.magnitude_value hy)
    · intro r
      exact ⟨_, apply_relation h hr hx r, apply_relation hdim hrc hy r⟩

end DecimalQuantity

theorem Number.decimal_of_mul {k : Number} {r : Decimal} {n : Number}
    (h : k.mul (.decimal r) = .ok n) : ∃ d m : Decimal, d.mul r = .ok m ∧ n = .decimal m := by
  cases k with
  | int a =>
    obtain ⟨m, hm, rfl⟩ := map_eq_ok.mp (show ((Decimal.ofInt a).mul r).map decimal = _ from h)
    exact ⟨_, m, hm, rfl⟩
  | float x => cases h
  | ratio q => cases h
  | decimal d =>
    obtain ⟨m, hm, rfl⟩ := map_eq_ok.mp h
    exact ⟨d, m, hm, rfl⟩

namespace Operand

/-- Whether an operand, or what stands innermost where magnitudes are nested, is no NaN. -/
def NoNaN : Operand → Prop
  | number n => ∀ signaling, n.extent ≠ .nan signaling
  | quantity ⟨m, _⟩ => NoNaN m
  | _ => True

/-- Only numbers and quantities are multiplied by a decimal. -/
theorem mulWithin_cases {inst : Arithmetic Operand} {m x : Operand} {r : Decimal}
    (h : mulWithin m (.ofDecimal r) = .ok x) :
    (∃ d e : Decimal, d.mul r = .ok e ∧ m.depth = 0 ∧ x = .ofDecimal e) ∨
      ∃ v w : Quantity Operand, m = quantity v ∧ v.scale (.ofDecimal r) = .ok w ∧
        x = quantity w := by
  have hnumber {k : Number} (hk : (k.mul (.decimal r)).map number = .ok x) :
      ∃ d e : Decimal, d.mul r = .ok e ∧ x = .ofDecimal e := by
    obtain ⟨n, hn, rfl⟩ := map_eq_ok.mp hk
    obtain ⟨d, e, he, rfl⟩ := Number.decimal_of_mul hn
    exact ⟨d, e, he, rfl⟩
  cases m with
  | null => cases h
  | bool b =>
    obtain ⟨d, e, he, hx⟩ := hnumber h
    exact .inl ⟨d, e, he, by simp [depth], hx⟩
  | text s => cases h
  | number k =>
    obtain ⟨d, e, he, hx⟩ := hnumber h
    exact .inl ⟨d, e, he, by simp [depth], hx⟩
  | list items => cases h
  | tuple items => cases h
  | dimension d => cases h
  | unit u => cases h
  | quantity v =>
    obtain ⟨w, hw, rfl⟩ := map_eq_ok.mp h
    exact .inr ⟨v, w, rfl, hw, rfl⟩

/-- A product with a decimal is nested as deep as what is multiplied, and multiplied by one it stays
as it is. -/
theorem mul_settles {q : Rat} {r : Decimal} (hr : r.value? = some q) {k : Nat} {m x : Operand}
    (h : (level k).mul m (.ofDecimal r) = .ok x) (hx : x.NoNaN) :
    x.depth = m.depth ∧ (level k).mul x (.ofDecimal (.finite false 1 0)) = .ok x := by
  have hdecimal {inst : Arithmetic Operand} {d e : Decimal} (he : d.mul r = .ok e)
      (hn : (ofDecimal e).NoNaN) :
      mulWithin (ofDecimal e) (.ofDecimal (.finite false 1 0)) = .ok (ofDecimal e) := by
    have hsettled : e.Settled := by
      apply Decimal.mul_settled hr he
      intro s g p hnan
      exact hn g (by rw [hnan]; rfl)
    change Except.map number (Except.map Number.decimal (e.mul (.finite false 1 0))) = _
    rw [hsettled.mul_one]
    rfl
  induction k generalizing m x with
  | zero =>
    rcases mulWithin_cases h with ⟨d, e, he, hm, rfl⟩ | ⟨v, w, -, hw, -⟩
    · exact ⟨by simp [ofDecimal, depth, hm], hdecimal he hx⟩
    · cases hw
  | succ k ih =>
    rcases mulWithin_cases h with ⟨d, e, he, hm, rfl⟩ | ⟨v, w, rfl, hw, rfl⟩
    · exact ⟨by simp [ofDecimal, depth, hm], hdecimal he hx⟩
    · obtain ⟨y, hy, hw⟩ := bind_eq_ok.mp hw
      obtain rfl := Except.ok.inj hw
      obtain ⟨magnitude, d, factor⟩ := v
      obtain ⟨hdepth, hone⟩ := ih hy hx
      refine ⟨?_, ?_⟩
      · simp only [depth]
        rw [hdepth]
      · change (((level k).mul y (.ofDecimal (.finite false 1 0))).bind _).map quantity = _
        rw [hone]
        rfl

end Operand

namespace DecimalUnit

/-- A quantity that is cast once to a unit stays as it is when it is cast again. -/
def CastSettles (m : Operand) (s t : DecimalUnit) : Prop :=
  ∀ once : Quantity Operand, (Operand.quantity ⟨m, s.unit⟩).cast t.operand = .ok (.quantity once) →
    once.magnitude.NoNaN → (Operand.quantity once).cast t.operand = .ok (.quantity once) ∧
      ∀ n, once.magnitude = .number n →
        Operand.apply .eq (.quantity once) (.quantity once) = .ok (.bool true)

theorem cast_settles (m : Operand) {s t : DecimalUnit} (h : s.dimension = t.dimension) :
    CastSettles m s t := by
  intro once hcast hnan
  rw [cast_eq m h] at hcast
  obtain ⟨r, hr, hcast⟩ := bind_eq_ok.mp hcast
  obtain ⟨x, hx, honce⟩ := map_eq_ok.mp hcast
  obtain rfl := Operand.quantity.inj honce
  obtain ⟨q, hq⟩ : ∃ q, r.value? = some q := by
    rcases Decimal.div_within s.factor_value t.factor_value t.nonzero with ⟨g, c, e, hd⟩ | hd
    · rw [hd] at hr
      obtain rfl := Except.ok.inj hr
      exact ⟨_, rfl⟩
    · rw [hd] at hr
      cases hr
  obtain ⟨hdepth, hone⟩ := Operand.mul_settles hq hx hnan
  have hmul : Arithmetic.mul x (.ofDecimal (.finite false 1 0)) = .ok x := by
    change (Operand.level (max x.depth 0)).mul x _ = _
    rw [hdepth]
    exact hone
  constructor
  · rw [cast_eq _ rfl, t.div_self]
    change (Arithmetic.mul x (.ofDecimal (.finite false 1 0))).map _ = _
    rw [hmul]
    rfl
  · intro n hn
    obtain rfl : x = .number n := hn
    exact t.equal_of_magnitude (Number.equal_self hnan)

end DecimalUnit

namespace DecimalQuantity

open DecimalUnit (CastSettles cast_settles)

/-- It is the same whether the second of two quantities is rescaled by an operation or is cast
before, and a second cast to the same unit changes nothing. -/
theorem rescaling_agrees_with_cast (v w : DecimalQuantity) (m : Operand) (s t : DecimalUnit) :
    (w.unit.dimension = v.unit.dimension → w.magnitude.Normal → PathsAgree v w) ∧
      (s.dimension = t.dimension → CastSettles m s t) := by
  constructor
  · intro h hw
    exact paths_agree h hw
  · intro hst
    exact cast_settles m hst

/-- The unit of a length with a factor of one and a half, written with a trailing zero. -/
def fathom : DecimalUnit :=
  ⟨.power .length 1, .finite false 150 (-2), 3 / 2, by
    simp [Decimal.value?, Decimal.signed, scaled]; norm_num, by norm_num⟩

/-- The same factor without the zero. -/
def pace : DecimalUnit :=
  ⟨.power .length 1, .finite false 15 (-1), 3 / 2, by
    simp [Decimal.value?, Decimal.signed, scaled]; norm_num, by norm_num⟩

def foot : DecimalUnit :=
  ⟨.power .length 1, .finite false 7 (-1), 7 / 10, by
    simp [Decimal.value?, Decimal.signed, scaled]; norm_num, by norm_num⟩

def one : DecimalQuantity :=
  ⟨.finite false 1 0, fathom, 1, by simp [Decimal.value?, Decimal.signed, scaled]⟩

def debt : DecimalQuantity :=
  ⟨.finite true 2500 0, pace, -2500, by simp [Decimal.value?, Decimal.signed, scaled]⟩

theorem normal_debt : debt.magnitude.Normal :=
  ⟨⟨25, 2, rfl, by decide⟩, .inr ⟨by decide, by decide⟩⟩

/-- The cast to feet is rounded. -/
theorem rescaling_agrees_with_cast_trailing_zero :
    PathsAgree one debt ∧ CastSettles (.ofDecimal (.finite false 3 0)) pace foot ∧
      (pace.times (.finite false 3 0)).cast foot.operand =
        .ok (foot.times (.finite false 6428571428571428571428571429 (-27))) := by
  have hunits : debt.unit.dimension = one.unit.dimension := rfl
  have hcast : pace.dimension = foot.dimension := rfl
  obtain ⟨hpaths, hsettles⟩ :=
    rescaling_agrees_with_cast one debt (.ofDecimal (.finite false 3 0)) pace foot
  exact ⟨hpaths hunits normal_debt, hsettles hcast, rfl⟩

end DecimalQuantity

end Metrology
