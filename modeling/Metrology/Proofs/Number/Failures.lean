import Metrology.Number.Order
import Metrology.Proofs.Dimension.Writable

namespace Metrology

/-- Whether the failure, if it is of two dimensions, is of different ones that both have a text. -/
@[simp] def Failure.Discerning : Failure → Prop
  | dimensionMismatch _ left right => left.Writable ∧ right.Writable ∧ left ≠ right
  | _ => True

/-- Whether an outcome is a result or such a failure. -/
inductive Discerning {α : Type} : Except Failure α → Prop
  | ok (a : α) : Discerning (.ok a)
  | error {failure : Failure} (h : failure.Discerning) : Discerning (.error failure)

@[simp] theorem discerning_ok {α : Type} (a : α) : Discerning (.ok a) :=
  .ok a

@[simp] theorem discerning_pure {α : Type} (a : α) : Discerning (pure a) :=
  .ok a

@[simp] theorem discerning_error {α : Type} (failure : Failure) :
    Discerning (.error failure : Except Failure α) ↔ failure.Discerning := by
  constructor
  · intro h
    cases h with
    | error h => exact h
  · exact .error

@[simp] theorem discerning_map {α β : Type} (x : Except Failure α) (f : α → β) :
    Discerning (x.map f) ↔ Discerning x := by
  cases x with
  | ok a => exact iff_of_true (.ok _) (.ok a)
  | error failure => exact (discerning_error failure).trans (discerning_error failure).symm

theorem Discerning.bind {α β : Type} {x : Except Failure α} (hx : Discerning x)
    {f : α → Except Failure β} (hf : ∀ a, Discerning (f a)) : Discerning (x >>= f) := by
  cases hx with
  | ok a => exact hf a
  | error h => exact .error h

/-- The failure of an operation that takes one dimension and got two different ones. -/
theorem discerning_mismatch {operation : String} {left right : Dimension} (h : left ≠ right) :
    (mismatch operation left right).Discerning := by
  by_cases hw : left.Writable ∧ right.Writable
  · rw [mismatch_eq, if_pos hw]
    exact ⟨hw.1, hw.2, h⟩
  · rw [mismatch_eq, if_neg hw]
    simp

namespace Decimal

theorem discerning_round (digits : Nat) (s : Bool) (c : Nat) (e : Int) :
    Discerning (round digits s c e) := by
  unfold round
  split
  · simp
  · dsimp only
    split <;> simp

theorem discerning_spread (s g : Bool) (p : Nat) : Discerning (spread s g p) := by
  unfold spread
  split <;> simp

theorem discerning_plus (d : Decimal) : Discerning d.plus := by
  cases d with
  | finite s c e => exact discerning_round ..
  | infinite s => exact .ok _
  | nan s g p => exact discerning_spread ..

theorem discerning_neg (d : Decimal) : Discerning d.neg := by
  cases d with
  | finite s c e => exact discerning_plus (finite (!s) c e)
  | infinite s => exact .ok _
  | nan s g p => exact discerning_spread ..

theorem discerning_abs (d : Decimal) : Discerning d.abs := by
  unfold abs
  split
  · exact discerning_neg d
  · exact discerning_plus d

/-- What a NaN among the operands makes of an operation. -/
theorem discerning_spread? {a b : Decimal} {result : Except Failure Decimal}
    (h : spread? a b = some result) : Discerning result := by
  unfold spread? at h
  split at h
  · rw [← Option.some.inj h]
    exact discerning_spread ..
  · rw [← Option.some.inj h]
    exact discerning_spread ..
  · rw [← Option.some.inj h]
    exact discerning_spread ..
  · rw [← Option.some.inj h]
    exact discerning_spread ..
  · cases h

theorem discerning_add (a b : Decimal) : Discerning (a.add b) := by
  have haligned (s₁ s₂ : Bool) (c₁ c₂ : Nat) (e₁ e₂ : Int) :
      Discerning (addAligned s₁ c₁ e₁ s₂ c₂ e₂) := by
    unfold addAligned
    split <;> exact discerning_round ..
  unfold add
  split
  · rename_i h
    exact discerning_spread? h
  · split
    · split <;> exact haligned ..
    · split <;> simp
    · simp
    · simp

theorem discerning_sub (a b : Decimal) : Discerning (a.sub b) := by
  unfold sub
  split
  · rename_i h
    exact discerning_spread? h
  · exact discerning_add ..

theorem discerning_mul (a b : Decimal) : Discerning (a.mul b) := by
  unfold mul
  split
  · rename_i h
    exact discerning_spread? h
  · split
    · exact discerning_round ..
    · split <;> simp
    · split <;> simp
    · simp

theorem discerning_divFinite (digits : Nat) (s₁ s₂ : Bool) (c₁ c₂ : Nat) (e₁ e₂ : Int) :
    Discerning (divFinite digits s₁ c₁ e₁ s₂ c₂ e₂) := by
  unfold divFinite
  split
  · split <;> simp
  · split
    · exact discerning_round ..
    · exact discerning_round ..

theorem discerning_div (a b : Decimal) : Discerning (a.div b) := by
  unfold div
  split
  · rename_i h
    exact discerning_spread? h
  · split
    · exact discerning_divFinite ..
    · simp
    · simp
    · simp

theorem discerning_product (digits : Nat) (a b : Nat × Int) :
    Discerning (product digits a b) := by
  unfold product
  have h := discerning_round digits false (a.1 * b.1) (a.2 + b.2)
  split
  · simp
  · simp
  · rename_i he
    rw [he] at h
    simpa using h

theorem discerning_powerOfBits (digits : Nat) (base acc : Nat × Int) (bits : List Bool) :
    Discerning (powerOfBits digits base acc bits) := by
  induction bits generalizing acc with
  | nil => exact .ok acc
  | cons bit rest ih =>
    refine (discerning_product ..).bind fun square => ?_
    cases bit with
    | true => exact (discerning_product ..).bind fun next => ih next
    | false => exact ih square

theorem discerning_powerOfLowBits (digits : Nat) (acc base : Nat × Int) (bits : List Bool) :
    Discerning (powerOfLowBits digits acc base bits) := by
  induction bits generalizing acc base with
  | nil => exact .ok acc
  | cons bit rest ih =>
    have hrest (next : Nat × Int) : Discerning (if rest.isEmpty then pure next else
        product digits base base >>= fun square => powerOfLowBits digits next square rest) := by
      split
      · exact .ok next
      · exact (discerning_product ..).bind fun square => ih next square
    cases bit with
    | true => exact (discerning_product ..).bind hrest
    | false => exact hrest acc

theorem discerning_reciprocal (digits c : Nat) (e : Int) :
    Discerning (reciprocal digits c e) := by
  unfold reciprocal
  have h := discerning_divFinite digits false false 1 c 0 e
  split
  · simp
  · simp
  · rename_i he
    rw [he] at h
    simpa using h

theorem discerning_powerFinite (c : Nat) (e k : Int) (negative : Bool) :
    Discerning (powerFinite c e k negative) := by
  have hend (digits : Nat) (base : Nat × Int) : Discerning
      (if k.natAbs < pow2 64 then
        powerOfBits digits base base (bits k.natAbs).tail >>= fun result =>
          round precision negative result.1 result.2
      else
        powerOfLowBits digits (1, 0) base (bits k.natAbs).reverse >>= fun result =>
          round precision negative result.1 result.2) := by
    split
    · exact (discerning_powerOfBits ..).bind fun result => discerning_round ..
    · exact (discerning_powerOfLowBits ..).bind fun result => discerning_round ..
  unfold powerFinite
  split
  · exact .ok _
  · dsimp only
    split
    · exact (discerning_reciprocal ..).bind fun base => hend _ base
    · exact hend _ (c, e)

theorem discerning_pow (d : Decimal) (k : Int) : Discerning (d.pow k) := by
  unfold pow
  split
  · exact discerning_spread ..
  · split
    · simp
    · split <;> simp
  · dsimp only
    split
    · split
      · simp
      · split <;> simp
    · split
      · simp
      · exact discerning_powerFinite ..

end Decimal

namespace Number

theorem discerning_floatQuotient (a b : Int) : Discerning (floatQuotient a b) := by
  unfold floatQuotient
  split <;> simp

theorem discerning_meet (a b : Number) : Discerning (meet a b) := by
  unfold meet
  split <;> simp [floatOfInt, floatOfRat, discerning_floatQuotient]

theorem discerning_add (a b : Number) : Discerning (a.add b) := by
  refine (discerning_meet a b).bind fun pair => ?_
  cases pair with
  | decimals a b => simpa using Decimal.discerning_add a b
  | _ => exact .ok _

theorem discerning_sub (a b : Number) : Discerning (a.sub b) := by
  refine (discerning_meet a b).bind fun pair => ?_
  cases pair with
  | decimals a b => simpa using Decimal.discerning_sub a b
  | _ => exact .ok _

theorem discerning_mul (a b : Number) : Discerning (a.mul b) := by
  refine (discerning_meet a b).bind fun pair => ?_
  cases pair with
  | decimals a b => simpa using Decimal.discerning_mul a b
  | _ => exact .ok _

theorem discerning_div (a b : Number) : Discerning (a.div b) := by
  refine (discerning_meet a b).bind fun pair => ?_
  cases pair with
  | ints a b =>
    dsimp only
    split
    · simp
    · simpa using discerning_floatQuotient a b
  | floats a b =>
    dsimp only
    split <;> simp
  | ratios a b =>
    dsimp only
    split <;> simp
  | decimals a b => simpa using Decimal.discerning_div a b

theorem discerning_powFloat (x y : Float) : Discerning (powFloat x y) := by
  unfold powFloat
  split
  · simp
  · split
    · simp
    · simp
    · split <;> simp
    · simp
    · split
      · split <;> simp
      · dsimp only
        split
        · simp
        · split <;> simp

theorem discerning_pow (n : Number) (k : Int) : Discerning (n.pow k) := by
  have hfloat (x y : Float) : Discerning (powFloat x y >>= fun z => pure (float z)) :=
    (discerning_powFloat x y).bind fun z => .ok _
  cases n with
  | int n =>
    unfold pow
    dsimp only
    split
    · simp
    · exact (discerning_floatQuotient ..).bind fun x =>
        (discerning_floatQuotient ..).bind fun y => hfloat x y
  | float x => exact (discerning_floatQuotient ..).bind fun y => hfloat x y
  | ratio q =>
    unfold pow
    dsimp only
    split
    · simp
    · split <;> simp
  | decimal d => simpa [pow] using Decimal.discerning_pow d k

theorem discerning_neg (n : Number) : Discerning n.neg := by
  cases n with
  | decimal d => simpa [neg] using Decimal.discerning_neg d
  | _ => exact .ok _

theorem discerning_abs (n : Number) : Discerning n.abs := by
  cases n with
  | decimal d => simpa [abs] using Decimal.discerning_abs d
  | _ => exact .ok _

theorem discerning_equal (a b : Number) : Discerning (a.equal b) := by
  unfold equal
  split <;> simp

theorem discerning_order (a b : Number) : Discerning (a.order b) := by
  unfold order
  split
  · simp
  · split <;> simp

end Number

end Metrology
