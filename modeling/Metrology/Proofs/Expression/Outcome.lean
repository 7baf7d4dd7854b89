import Mathlib.Data.List.Forall2
import Metrology.Expression.Meaning
import Metrology.Proofs.Expression.Powers
import Metrology.Proofs.Number.Excess

namespace Metrology.Expression

/-- Whether a symbol is either unknown or bound to a unit with a number for its factor. -/
def Tabled (lookup : String → Except Failure Operand) : Prop :=
  ∀ symbol, lookup symbol = .error (.unknownUnit symbol) ∨
    ∃ d n, lookup symbol = .ok (.unit ⟨d, .number n⟩)

/-- Terms whose symbols are all bound, and what each of them multiplies the factor by: a factor to
an exponent. -/
def Bound (lookup : String → Except Failure Operand) (ts : List Term)
    (fs : List (Number × Int)) : Prop :=
  List.Forall₂ (fun t f => (∃ d, lookup t.symbol = .ok (.unit ⟨d, .number f.1⟩)) ∧
    t.signedExponent = f.2) ts fs

/-- A number times a power, in the arithmetic of the numbers. -/
def timesPower (a : Number) (f : Number × Int) : Except Failure Number := do
  a.mul (← f.1.pow f.2)

/-- The product of a number and some powers, from the left on. -/
def factorProduct (a : Number) (fs : List (Number × Int)) : Except Failure Number :=
  fs.foldlM timesPower a

variable {lookup : String → Except Failure Operand}

theorem multiply_number {t : Term} {d : Dimension} {n : Number}
    (h : lookup t.symbol = .ok (.unit ⟨d, .number n⟩)) (e : Dimension) (a : Number) :
    multiply lookup ⟨e, .number a⟩ t = (timesPower a (n, t.signedExponent)).map fun b =>
      ⟨e + d.scale t.signedExponent, .number b⟩ := by
  unfold multiply timesPower
  rw [h]
  change (MeasureUnit.power ⟨d, Operand.number n⟩ t.signedExponent >>= fun power => _) = _
  unfold MeasureUnit.power
  rw [Operand.pow_number]
  cases n.pow t.signedExponent with
  | error failure => rfl
  | ok p =>
    change MeasureUnit.compose ⟨e, Operand.number a⟩ ⟨d.scale t.signedExponent, .number p⟩ =
      (a.mul p).map _
    unfold MeasureUnit.compose
    rw [Operand.mul_number]
    cases a.mul p <;> rfl

theorem product_cons_number {t : Term} {d : Dimension} {n : Number}
    (h : lookup t.symbol = .ok (.unit ⟨d, .number n⟩)) (e : Dimension) (a : Number)
    (ts : List Term) :
    product lookup ⟨e, .number a⟩ (t :: ts) =
      timesPower a (n, t.signedExponent) >>= fun b =>
        product lookup ⟨e + d.scale t.signedExponent, .number b⟩ ts := by
  unfold product
  rw [List.foldlM_cons, multiply_number h]
  cases timesPower a (n, t.signedExponent) <;> rfl

theorem bound_cons {t : Term} {d : Dimension} {n : Number}
    (h : lookup t.symbol = .ok (.unit ⟨d, .number n⟩)) {ts : List Term}
    {fs : List (Number × Int)} :
    Bound lookup (t :: ts) fs ↔ ∃ rest, fs = (n, t.signedExponent) :: rest ∧
      Bound lookup ts rest := by
  constructor
  · intro hb
    cases hb with
    | @cons _ f _ rest hf hr =>
      obtain ⟨⟨d', hd⟩, hk⟩ := hf
      rw [h] at hd
      injection hd with hd
      injection hd with hd
      injection hd with _ hd
      injection hd with hd
      exact ⟨rest, by rw [hd, hk], hr⟩
  · rintro ⟨rest, rfl, hr⟩
    exact .cons ⟨⟨d, h⟩, rfl⟩ hr

/-- Whether terms up to some place are all bound, and their powers fail to multiply. -/
def Fails (lookup : String → Except Failure Operand) (a : Number) (ts : List Term)
    (e : Failure) : Prop :=
  ∃ before after fs, ts = before ++ after ∧ Bound lookup before fs ∧
    factorProduct a fs = .error e

theorem not_fails_nil {a : Number} {e : Failure} : ¬Fails lookup a [] e := by
  rintro ⟨before, after, fs, ht, hb, hf⟩
  obtain ⟨rfl, -⟩ := List.append_eq_nil_iff.mp ht.symm
  cases hb
  cases hf

theorem not_fails_unknown {t : Term} (h : lookup t.symbol = .error (.unknownUnit t.symbol))
    {a : Number} {ts : List Term} {e : Failure} : ¬Fails lookup a (t :: ts) e := by
  rintro ⟨before, after, fs, ht, hb, hf⟩
  cases hb with
  | nil => cases hf
  | cons hfirst _ =>
    obtain ⟨⟨_, hd⟩, -⟩ := hfirst
    obtain ⟨rfl, -⟩ := List.cons.inj ht
    rw [h] at hd
    cases hd

theorem factorProduct_cons (a : Number) (f : Number × Int) (fs : List (Number × Int)) :
    factorProduct a (f :: fs) = timesPower a f >>= fun b => factorProduct b fs :=
  List.foldlM_cons

/-- A bound term in front either fails itself, or leaves the failure to the others. -/
theorem fails_cons_iff {t : Term} {d : Dimension} {n : Number}
    (h : lookup t.symbol = .ok (.unit ⟨d, .number n⟩)) {a : Number} {ts : List Term}
    {e : Failure} :
    Fails lookup a (t :: ts) e ↔ timesPower a (n, t.signedExponent) = .error e ∨
      ∃ b, timesPower a (n, t.signedExponent) = .ok b ∧ Fails lookup b ts e := by
  constructor
  · rintro ⟨before, after, fs, ht, hb, hf⟩
    cases before with
    | nil =>
      cases hb
      cases hf
    | cons t' before =>
      obtain ⟨rfl, rfl⟩ := List.cons.inj ht
      obtain ⟨rest, rfl, hr⟩ := (bound_cons h).mp hb
      rw [factorProduct_cons] at hf
      cases hp : timesPower a (n, t.signedExponent) with
      | error e' =>
        rw [hp] at hf
        exact .inl hf
      | ok b =>
        rw [hp] at hf
        exact .inr ⟨b, rfl, before, after, rest, rfl, hr, hf⟩
  · rintro (hp | ⟨b, hp, before, after, fs, rfl, hb, hf⟩)
    · refine ⟨[t], ts, [(n, t.signedExponent)], rfl, (bound_cons h).mpr ⟨[], rfl, .nil⟩, ?_⟩
      rw [factorProduct_cons, hp]
      rfl
    · refine ⟨t :: before, after, (n, t.signedExponent) :: fs, rfl,
        (bound_cons h).mpr ⟨fs, rfl, hb⟩, ?_⟩
      rw [factorProduct_cons, hp]
      exact hf

/-- A failure that is none of the text comes from the factors of the terms up to some place. -/
theorem product_error_iff (hl : Tabled lookup) {e : Failure} (he : e.isParse = false)
    (d : Dimension) (a : Number) (ts : List Term) :
    product lookup ⟨d, .number a⟩ ts = .error e ↔ Fails lookup a ts e := by
  induction ts generalizing d a with
  | nil => exact ⟨nofun, fun h => absurd h not_fails_nil⟩
  | cons t ts ih =>
    rcases hl t.symbol with hu | ⟨d', n, hn⟩
    · have hp : product lookup ⟨d, .number a⟩ (t :: ts) = .error (.unknownUnit t.symbol) := by
        unfold product multiply
        rw [List.foldlM_cons, hu]
        rfl
      rw [hp]
      constructor
      · intro h
        obtain rfl := Except.error.inj h
        cases he
      · intro h
        exact absurd h (not_fails_unknown hu)
    · rw [product_cons_number hn, fails_cons_iff hn]
      cases ht : timesPower a (n, t.signedExponent) with
      | error e' => simp [bind, Except.bind]
      | ok b => simpa [bind, Except.bind] using ih (d + d'.scale t.signedExponent) b

theorem timesPower_outcome {kind : NumberKind} {a : Number} (ha : kind.Computes a)
    {f : Number × Int} (hf : kind.isFactor f.1 = true) : kind.Outcome (timesPower a f) := by
  unfold timesPower
  rcases NumberKind.pow_outcome hf f.2 with ⟨p, hp, hk⟩ | ⟨e, he, hp⟩
  · rw [hp]
    exact NumberKind.mul_outcome ha hk
  · rw [hp]
    exact .inr ⟨e, he, rfl⟩

/-- A product of powers is of the kind of its factors, or too large for it. -/
theorem factorProduct_outcome {kind : NumberKind} {a : Number} (ha : kind.Computes a)
    {fs : List (Number × Int)} (hf : ∀ f ∈ fs, kind.isFactor f.1 = true) :
    kind.Outcome (factorProduct a fs) := by
  induction fs generalizing a with
  | nil => exact .inl ⟨a, rfl, ha⟩
  | cons f fs ih =>
    rw [factorProduct_cons]
    rcases timesPower_outcome ha (hf f (by simp)) with ⟨b, hb, hk⟩ | ⟨e, he, hb⟩
    · rw [hb]
      exact ih hk fun g hg => hf g (by simp [hg])
    · rw [hb]
      exact .inr ⟨e, he, rfl⟩

end Metrology.Expression
