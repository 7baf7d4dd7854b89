import Metrology.Calculator.Members
import Metrology.Calculator.Operators
import Metrology.Proofs.Number.Failures

namespace Metrology

/-- Whether no operation fails because of two dimensions that are the same or have no text. -/
structure Arithmetic.Discerns {α : Type} (ops : Arithmetic α) : Prop where
  add : ∀ a b, Discerning (ops.add a b)
  sub : ∀ a b, Discerning (ops.sub a b)
  mul : ∀ a b, Discerning (ops.mul a b)
  div : ∀ a b, Discerning (ops.div a b)
  pow : ∀ a k, Discerning (ops.pow a k)
  neg : ∀ a, Discerning (ops.neg a)
  abs : ∀ a, Discerning (ops.abs a)
  equal : ∀ a b, Discerning (ops.equal a b)
  order : ∀ a b, Discerning (ops.order a b)

section

variable {α : Type} [ops : Arithmetic α]

theorem Arithmetic.Discerns.lt (h : ops.Discerns) (a b : α) : Discerning (Arithmetic.lt a b) := by
  simpa [Arithmetic.lt] using h.order a b

namespace MeasureUnit

theorem discerning_compose (h : ops.Discerns) (a b : MeasureUnit α) : Discerning (a.compose b) :=
  (h.mul _ _).bind fun _ => .ok _

theorem discerning_invertCombine (h : ops.Discerns) (a b : MeasureUnit α) :
    Discerning (a.invertCombine b) :=
  (h.div _ _).bind fun _ => .ok _

theorem discerning_power (h : ops.Discerns) (a : MeasureUnit α) (k : Int) :
    Discerning (a.power k) :=
  (h.pow _ _).bind fun _ => .ok _

theorem discerning_partialCompare (h : ops.Discerns) (a b : MeasureUnit α) :
    Discerning (a.partialCompare b) := by
  unfold partialCompare
  split
  · simp
  · refine (h.lt _ _).bind fun less => ?_
    split
    · simp
    · refine (h.lt _ _).bind fun greater => ?_
      split <;> simp

theorem discerning_equal (h : ops.Discerns) (a b : MeasureUnit α) : Discerning (a.equal b) := by
  unfold equal
  split
  · exact h.equal _ _
  · simp

end MeasureUnit

namespace Quantity

omit ops in
/-- The one place at which the dimensions of two quantities are compared. -/
theorem discerning_requireSameDimension (operation : String) (v w : Quantity α) :
    Discerning (requireSameDimension operation v w) := by
  unfold requireSameDimension
  split
  · simp
  · rename_i hd
    exact .error (discerning_mismatch hd)

theorem discerning_rescaled (h : ops.Discerns) (v w : Quantity α) : Discerning (v.rescaled w) := by
  refine (h.equal _ _).bind fun same => ?_
  split
  · simp
  · exact (h.div _ _).bind fun ratio => h.mul _ _

theorem discerning_cast (h : ops.Discerns) (v : Quantity α) (target : MeasureUnit α) :
    Discerning (v.cast target) := by
  unfold cast
  split
  · rename_i hd
    exact .error (discerning_mismatch (Ne.symm hd))
  · exact (h.div _ _).bind fun ratio => (h.mul _ _).bind fun _ => .ok _

theorem discerning_add (h : ops.Discerns) (v w : Quantity α) : Discerning (v.add w) :=
  (discerning_requireSameDimension "Add" v w).bind fun _ =>
    (discerning_rescaled h v w).bind fun _ => (h.add _ _).bind fun _ => .ok _

theorem discerning_sub (h : ops.Discerns) (v w : Quantity α) : Discerning (v.sub w) :=
  (discerning_requireSameDimension "Sub" v w).bind fun _ =>
    (discerning_rescaled h v w).bind fun _ => (h.sub _ _).bind fun _ => .ok _

theorem discerning_order (h : ops.Discerns) (v w : Quantity α) : Discerning (v.order w) :=
  (discerning_requireSameDimension "Comparison" v w).bind fun _ =>
    (discerning_rescaled h v w).bind fun _ => h.order _ _

theorem discerning_mul (h : ops.Discerns) (v w : Quantity α) : Discerning (v.mul w) :=
  (h.mul _ _).bind fun _ => (v.unit.discerning_compose h w.unit).bind fun _ => .ok _

theorem discerning_div (h : ops.Discerns) (v w : Quantity α) : Discerning (v.div w) :=
  (h.div _ _).bind fun _ => (v.unit.discerning_invertCombine h w.unit).bind fun _ => .ok _

theorem discerning_scale (h : ops.Discerns) (v : Quantity α) (s : α) : Discerning (v.scale s) :=
  (h.mul _ _).bind fun _ => .ok _

theorem discerning_scaleLeft (h : ops.Discerns) (s : α) (v : Quantity α) :
    Discerning (scaleLeft s v) :=
  (h.mul _ _).bind fun _ => .ok _

theorem discerning_shrink (h : ops.Discerns) (v : Quantity α) (s : α) : Discerning (v.shrink s) :=
  (h.div _ _).bind fun _ => .ok _

theorem discerning_divideInto (h : ops.Discerns) (s : α) (v : Quantity α) :
    Discerning (divideInto s v) :=
  (h.div _ _).bind fun _ => (v.unit.discerning_power h (-1)).bind fun _ => .ok _

theorem discerning_pow (h : ops.Discerns) (v : Quantity α) (k : Int) : Discerning (v.pow k) :=
  (h.pow _ _).bind fun _ => (v.unit.discerning_power h k).bind fun _ => .ok _

theorem discerning_neg (h : ops.Discerns) (v : Quantity α) : Discerning v.neg :=
  (h.neg _).bind fun _ => .ok _

theorem discerning_abs (h : ops.Discerns) (v : Quantity α) : Discerning v.abs :=
  (h.abs _).bind fun _ => .ok _

theorem discerning_equal (h : ops.Discerns) (v w : Quantity α) : Discerning (v.equal w) := by
  refine (h.equal _ _).bind fun same => ?_
  split
  · exact v.unit.discerning_equal h w.unit
  · simp

end Quantity

end

theorem Discerning.mapM {α β : Type} {f : α → Except Failure β} (h : ∀ x, Discerning (f x))
    (xs : List α) : Discerning (xs.mapM f) := by
  induction xs with
  | nil => exact .ok _
  | cons x xs ih =>
    rw [List.mapM_cons]
    exact (h x).bind fun y => ih.bind fun ys => .ok _

theorem discerning_integerText (n : Int) : Discerning (integerText n) := by
  by_cases h : WritableInt n
  · rw [integerText_ok h]
    simp
  · rw [integerText_error h]
    simp

theorem Number.discerning_shown (n : Number) : Discerning n.shown := by
  cases n with
  | int n =>
    rw [shown]
    exact discerning_integerText n
  | float x => exact .ok _
  | ratio q =>
    rw [shown]
    exact (discerning_integerText q.num).bind fun _ =>
      (discerning_integerText q.den).bind fun _ => .ok _
  | decimal d => exact .ok _

theorem Dimension.discerning_shown (d : Dimension) : Discerning d.shown := by
  rw [shown, discerning_map]
  refine Discerning.mapM (fun axis => ?_) _
  rw [exponentText, discerning_map]
  exact discerning_integerText (d.exponent axis)

namespace Operand

mutual

theorem discerning_shown : ∀ x : Operand, Discerning x.shown
  | null => .ok _
  | bool _ => .ok _
  | text _ => .ok _
  | number n => n.discerning_shown
  | list items => by
    rw [shown, discerning_map]
    exact discerning_shownAll items
  | tuple items => by
    rw [shown, discerning_map]
    exact discerning_shownAll items
  | dimension d => d.discerning_shown
  | unit ⟨d, factor⟩ => by
    rw [shown]
    exact d.discerning_shown.bind fun _ => (discerning_shown factor).bind fun _ => .ok _
  | quantity ⟨magnitude, ⟨d, factor⟩⟩ => by
    rw [shown]
    exact (discerning_shown magnitude).bind fun _ => d.discerning_shown.bind fun _ =>
      (discerning_shown factor).bind fun _ => .ok _

theorem discerning_shownAll : ∀ items : List Operand, Discerning (shownAll items)
  | [] => .ok _
  | item :: rest => by
    rw [shownAll]
    exact (discerning_shown item).bind fun _ => (discerning_shownAll rest).bind fun _ => .ok _

end

theorem discerning_lift {f : Number → Number → Except Failure Number}
    (hf : ∀ m n, Discerning (f m n)) (a b : Operand) : Discerning (lift f a b) := by
  unfold lift
  split
  · simpa using hf _ _
  · simp

theorem discerning_lift₁ {f : Number → Except Failure Number} (hf : ∀ n, Discerning (f n))
    (a : Operand) : Discerning (lift₁ f a) := by
  unfold lift₁
  split
  · simpa using hf _
  · simp

theorem discerning_index (x : Operand) : Discerning x.index := by
  unfold index
  split <;> simp

theorem discerning_count (size : Nat) (a : Operand) : Discerning (count size a) := by
  refine a.discerning_index.bind fun k => ?_
  dsimp only
  split
  · exact .error trivial
  · split
    · exact .ok 0
    · split
      · exact .error trivial
      · exact .ok k.toNat

theorem discerning_repeated (items : List Operand) (times : Operand) :
    Discerning (repeated items times) := by
  simpa [repeated] using discerning_count _ _

theorem discerning_repeatedText (s : String) (times : Operand) :
    Discerning (repeatedText s times) := by
  simpa [repeatedText] using discerning_count _ _

theorem discerning_isOne (a : Operand) : Discerning a.isOne := by
  unfold isOne
  split
  · exact Number.discerning_equal _ _
  · simp

theorem discerning_dimensionOfItems (items : List Operand) :
    Discerning (dimensionOfItems items) := by
  refine (Discerning.mapM discerning_index items).bind fun exponents => ?_
  split <;> simp

theorem discerning_toDimension (x : Operand) : Discerning x.toDimension := by
  unfold toDimension
  split
  · simp
  · exact discerning_dimensionOfItems _
  · exact discerning_dimensionOfItems _
  · exact discerning_dimensionOfItems _
  · simp

theorem discerning_equalInt (n : Int) (x : Operand) : Discerning (equalInt n x) := by
  unfold equalInt
  split
  · exact Number.discerning_equal _ _
  · simp

theorem discerning_equalInts (ns : List Int) (items : List Operand) :
    Discerning (equalInts ns items) := by
  induction ns generalizing items with
  | nil => exact .ok _
  | cons n ns ih =>
    cases items with
    | nil => exact .ok _
    | cons item items =>
      refine (discerning_equalInt n item).bind fun same => ?_
      split
      · exact ih items
      · simp

theorem discerning_equalLeaves (a b : Operand) : Discerning (equalLeaves a b) := by
  unfold equalLeaves
  split
  · simp
  · simp
  · split
    · exact Number.discerning_equal _ _
    · simp

theorem discerning_orderLeaves (a b : Operand) : Discerning (orderLeaves a b) := by
  unfold orderLeaves
  split
  · simp
  · simp
  · simp
  · split
    · exact Number.discerning_order _ _
    · simp

theorem discerning_orderInts (ns : List Int) (items : List Operand) :
    Discerning (orderInts ns items) := by
  induction ns generalizing items with
  | nil => exact .ok _
  | cons n ns ih =>
    cases items with
    | nil => exact .ok _
    | cons item items =>
      refine (discerning_equalInt n item).bind fun same => ?_
      split
      · exact ih items
      · exact discerning_orderLeaves _ _

section

variable [inner : Arithmetic Operand]

theorem discerning_addWithin (h : inner.Discerns) (a b : Operand) :
    Discerning (addWithin a b) := by
  unfold addWithin
  split
  · simp
  · simp
  · simp
  · simp
  · exact (discerning_toDimension _).bind fun _ => .ok _
  · exact (discerning_toDimension _).bind fun _ => .ok _
  · simpa using Quantity.discerning_add h _ _
  · exact discerning_lift Number.discerning_add _ _

theorem discerning_subWithin (h : inner.Discerns) (a b : Operand) :
    Discerning (subWithin a b) := by
  unfold subWithin
  split
  · simp
  · exact (discerning_toDimension _).bind fun _ => .ok _
  · exact (discerning_toDimension _).bind fun _ => .ok _
  · simpa using Quantity.discerning_sub h _ _
  · exact discerning_lift Number.discerning_sub _ _

theorem discerning_mulWithin (h : inner.Discerns) (a b : Operand) :
    Discerning (mulWithin a b) := by
  unfold mulWithin
  split
  · exact discerning_repeatedText _ _
  · exact discerning_repeatedText _ _
  · simpa using discerning_repeated _ _
  · simpa using discerning_repeated _ _
  · simpa using discerning_repeated _ _
  · simpa using discerning_repeated _ _
  · simp
  · simp
  · simpa using MeasureUnit.discerning_compose h _ _
  · simpa using Quantity.discerning_mul h _ _
  · simpa using Quantity.discerning_scale h _ _
  · simpa using Quantity.discerning_scaleLeft h _ _
  · exact discerning_lift Number.discerning_mul _ _

theorem discerning_divWithin (h : inner.Discerns) (a b : Operand) :
    Discerning (divWithin a b) := by
  unfold divWithin
  split
  · simpa using MeasureUnit.discerning_invertCombine h _ _
  · simpa using Quantity.discerning_div h _ _
  · simpa using Quantity.discerning_shrink h _ _
  · simpa using Quantity.discerning_divideInto h _ _
  · refine (discerning_isOne _).bind fun one => ?_
    split
    · simpa using MeasureUnit.discerning_power h _ _
    · exact (discerning_shown _).bind fun _ => .error trivial
  · exact discerning_lift Number.discerning_div _ _

theorem discerning_powWithin (h : inner.Discerns) (a : Operand) (k : Int) :
    Discerning (powWithin a k) := by
  unfold powWithin
  split
  · simpa using MeasureUnit.discerning_power h _ _
  · simpa using Quantity.discerning_pow h _ _
  · exact discerning_lift₁ (Number.discerning_pow · k) _

theorem discerning_negWithin (h : inner.Discerns) (a : Operand) :
    Discerning (negWithin a) := by
  unfold negWithin
  split
  · simp
  · simpa using Quantity.discerning_neg h _
  · exact discerning_lift₁ Number.discerning_neg _

theorem discerning_absWithin (h : inner.Discerns) (a : Operand) :
    Discerning (absWithin a) := by
  unfold absWithin
  split
  · simpa using Quantity.discerning_abs h _
  · exact discerning_lift₁ Number.discerning_abs _

mutual

theorem discerning_equalWithin (h : inner.Discerns) (a b : Operand) :
    Discerning (equalWithin a b) := by
  unfold equalWithin
  split
  · split
    · exact discerning_equalAll h _ _
    · simp
  · exact discerning_equalAll h _ _
  · simp
  · exact discerning_equalInts _ _
  · exact discerning_equalInts _ _
  · exact MeasureUnit.discerning_equal h _ _
  · exact Quantity.discerning_equal h _ _
  · exact discerning_equalLeaves _ _
termination_by sizeOf a

theorem discerning_equalAll (h : inner.Discerns) (as bs : List Operand) :
    Discerning (equalAll as bs) := by
  unfold equalAll
  split
  · simp
  · simp
  · refine (discerning_equalWithin h _ _).bind fun same => ?_
    split
    · exact discerning_equalAll h _ _
    · simp
termination_by sizeOf as

end

mutual

theorem discerning_orderWithin (h : inner.Discerns) (a b : Operand) :
    Discerning (orderWithin a b) := by
  unfold orderWithin
  split
  · exact discerning_orderAll h _ _
  · exact discerning_orderAll h _ _
  · exact discerning_orderInts _ _
  · exact discerning_orderInts _ _
  · simpa using discerning_orderInts _ _
  · exact MeasureUnit.discerning_partialCompare h _ _
  · exact Quantity.discerning_order h _ _
  · exact discerning_orderLeaves _ _
termination_by sizeOf a

theorem discerning_orderAll (h : inner.Discerns) (as bs : List Operand) :
    Discerning (orderAll as bs) := by
  unfold orderAll
  split
  · refine (discerning_equalWithin h _ _).bind fun same => ?_
    split
    · exact discerning_orderAll h _ _
    · exact discerning_orderWithin h _ _
  · exact .ok _
termination_by sizeOf as

end

variable {inner} in
/-- What holds of the arithmetic inside holds of the one outside. -/
theorem discerns_within (h : inner.Discerns) : (within inner).Discerns where
  add := discerning_addWithin h
  sub := discerning_subWithin h
  mul := discerning_mulWithin h
  div := discerning_divWithin h
  pow := discerning_powWithin h
  neg := discerning_negWithin h
  abs := discerning_absWithin h
  equal := discerning_equalWithin h
  order := discerning_orderWithin h

end

theorem discerns_undefined : (Arithmetic.undefined Operand).Discerns := by
  constructor
  all_goals
    intros
    exact .error trivial

/-- By induction on how deep operands are nested. -/
theorem discerns_level (n : Nat) : (level n).Discerns := by
  induction n with
  | zero => exact discerns_within discerns_undefined
  | succ n ih => exact discerns_within ih

theorem discerns : instArithmetic.Discerns where
  add a b := (discerns_level (max a.depth b.depth)).add a b
  sub a b := (discerns_level (max a.depth b.depth)).sub a b
  mul a b := (discerns_level (max a.depth b.depth)).mul a b
  div a b := (discerns_level (max a.depth b.depth)).div a b
  pow a k := (discerns_level a.depth).pow a k
  neg a := (discerns_level a.depth).neg a
  abs a := (discerns_level a.depth).abs a
  equal a b := (discerns_level (max a.depth b.depth)).equal a b
  order a b := (discerns_level (max a.depth b.depth)).order a b

theorem discerning_missing {α : Type} (name : String) (x : Operand) :
    Discerning (.error (x.missing name) : Except Failure α) := by
  cases x <;> exact .error trivial

theorem discerning_asUnit (name : String) (x : Operand) : Discerning (x.asUnit name) := by
  unfold asUnit
  split
  · exact .ok _
  · exact discerning_missing name _

theorem discerning_asQuantity (name : String) (x : Operand) :
    Discerning (x.asQuantity name) := by
  unfold asQuantity
  split
  · exact .ok _
  · exact discerning_missing name _

theorem discerning_dimension? (x : Operand) : Discerning x.dimension? := by
  unfold dimension?
  split
  · exact .ok _
  · exact .ok _
  · exact discerning_missing "dimension" _

theorem discerning_factored (x : Operand) : Discerning x.factored := by
  refine x.discerning_dimension?.bind fun d => ?_
  have hf : Discerning x.factor? := by
    simpa [factor?] using discerning_asUnit "factor" x
  exact hf.bind fun _ => .ok _

theorem discerning_cast (x target : Operand) : Discerning (x.cast target) := by
  refine (discerning_asQuantity "cast" x).bind fun v => ?_
  refine target.discerning_dimension?.bind fun d => ?_
  split
  · rename_i hd
    exact .error (discerning_mismatch hd.symm)
  · exact target.discerning_factored.bind fun u =>
      (Quantity.discerning_cast discerns v u).bind fun _ => .ok _

end Operand

end Metrology
