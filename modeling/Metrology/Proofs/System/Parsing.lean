import Metrology.Proofs.Expression.Outcome
import Metrology.Proofs.System.Preset
import Metrology.System.Reading

namespace Metrology.UnitSystem

theorem forgive_eq_error {α : Type} {x : Except Failure α} {e : Failure} :
    forgive x = .error e ↔ x = .error e ∧ e.isParse = false := by
  cases x with
  | ok a => exact ⟨nofun, nofun⟩
  | error failure =>
    cases hp : failure.isParse with
    | true =>
      rw [forgive, if_pos hp]
      constructor
      · nofun
      · rintro ⟨he, hn⟩
        rw [← Except.error.inj he, hp] at hn
        contradiction
    | false =>
      rw [forgive, if_neg (by simp [hp])]
      constructor
      · intro he
        rw [← Except.error.inj he]
        exact ⟨rfl, hp⟩
      · rintro ⟨he, -⟩
        rw [Except.error.inj he]

/-- Forgiving leaves the failures of excess, if there are no others than those and those of the
text. -/
theorem forgive_excess {α : Type} {kind : NumberKind} {x : Except Failure α}
    {P : Failure → Prop} (hx : ∀ e, e.isParse = false → (x = .error e ↔ P e))
    (hP : ∀ e, P e → kind.excess? = some e) (e : Failure) :
    forgive x = .error e ↔ P e ∧ kind.excess? = some e := by
  rw [forgive_eq_error]
  constructor
  · rintro ⟨h, hp⟩
    have he := (hx e hp).mp h
    exact ⟨he, hP e he⟩
  · rintro ⟨he, hk⟩
    have hp := NumberKind.excess_not_parse hk
    exact ⟨(hx e hp).mpr he, hp⟩

/-- A system of a kind of numbers whose entries are units, each with a number of the kind other
than zero for its factor. -/
structure Numbered (s : UnitSystem) (kind : NumberKind) : Prop where
  number : s.number = kind
  entries : ∀ e ∈ s.registry.entries, ∃ d n, e.2 = .unit ⟨d, .number n⟩ ∧ kind.isFactor n = true

variable {s : UnitSystem} {kind : NumberKind}

theorem Numbered.register (h : s.Numbered kind) (symbol : String) (d : Dimension) {n : Number}
    (hn : kind.isFactor n = true) : (s.register symbol (.unit ⟨d, .number n⟩)).Numbered kind := by
  refine ⟨h.number, ?_⟩
  intro e he
  rcases Registry.mem_bind he with rfl | hm
  · exact ⟨d, n, rfl, hn⟩
  · exact h.entries e hm

theorem numbered_si (hk : kind ≠ .int) : ∃ s, si kind = .ok s ∧ s.Numbered kind := by
  apply si_induction hk
  · exact ⟨rfl, by simp⟩
  · intro s axis h
    exact h.register _ _ (NumberKind.isFactor_one hk)
  · intro s h
    exact h.number
  · intro s item _ n _ hn h
    exact h.register _ _ hn

theorem get?_of_lookup {symbol : String} {entry : Operand} (h : s.lookup symbol = .ok entry) :
    s.get? symbol = some entry := by
  unfold UnitSystem.lookup at h
  split at h
  · rename_i hg
    rw [hg, Except.ok.inj h]
  · contradiction

theorem Numbered.tabled (h : s.Numbered kind) : Expression.Tabled s.lookup := by
  intro symbol
  unfold UnitSystem.lookup
  cases hg : s.get? symbol with
  | none => exact .inl rfl
  | some entry =>
    obtain ⟨d, n, he, -⟩ := h.entries _ (mem_of_get? hg)
    simp only at he
    exact .inr ⟨d, n, by rw [he]⟩

theorem Numbered.isFactor (h : s.Numbered kind) {symbol : String} {d : Dimension} {n : Number}
    (hl : s.lookup symbol = .ok (.unit ⟨d, .number n⟩)) : kind.isFactor n = true := by
  obtain ⟨d', n', he, hf⟩ := h.entries _ (mem_of_get? (get?_of_lookup hl))
  simp only [Operand.unit.injEq, MeasureUnit.mk.injEq, Operand.number.injEq] at he
  rw [he.2]
  exact hf

theorem Numbered.isFactor_bound (h : s.Numbered kind) {ts : List Term} {fs : List (Number × Int)}
    (hb : Expression.Bound s.lookup ts fs) : ∀ f ∈ fs, kind.isFactor f.1 = true := by
  induction hb with
  | nil => simp
  | cons hf _ ih =>
    obtain ⟨⟨d, hl⟩, -⟩ := hf
    intro g hg
    rcases List.mem_cons.mp hg with rfl | hg
    · exact h.isFactor hl
    · exact ih g hg

/-- Whether a text has a reading of which the terms up to some place are bound, and their powers
fail to multiply. -/
def Exceeds (s : UnitSystem) (text : String) (e : Failure) : Prop :=
  ∃ ts, Expression.Reading text ts ∧ Expression.Fails s.lookup s.number.one ts e

theorem Numbered.excess (hk : kind ≠ .int) (h : s.Numbered kind) {text : String} {e : Failure}
    (he : s.Exceeds text e) : kind.excess? = some e := by
  obtain ⟨ts, -, before, after, fs, -, hb, hf⟩ := he
  have ho := Expression.factorProduct_outcome (NumberKind.computes_one hk) (h.isFactor_bound hb)
  rw [h.number] at hf
  rcases ho with ⟨n, hn, -⟩ | ⟨e', he', hx⟩
  · rw [hn] at hf
    contradiction
  · rw [hx] at hf
    rw [he', Except.error.inj hf]

theorem Numbered.unit_error (h : s.Numbered kind) {text : String} {e : Failure}
    (he : e.isParse = false) : s.unit text = .error e ↔ s.Exceeds text e := by
  unfold unit Expression.unit
  cases ht : Expression.terms text with
  | error failure =>
    constructor
    · intro hf
      have hp := Expression.terms_failure ht
      rw [Except.error.inj hf, he] at hp
      cases hp
    · rintro ⟨ts, hr, -⟩
      rw [Expression.terms_of_reading hr] at ht
      cases ht
  | ok ts =>
    have hr := (Expression.terms_eq_ok_iff text ts).mp ht
    refine (Expression.product_error_iff h.tabled he 0 s.number.one ts).trans ?_
    constructor
    · intro hf
      exact ⟨ts, hr, hf⟩
    · rintro ⟨ts', hr', hf⟩
      rw [Expression.terms_of_reading hr'] at ht
      rwa [← Except.ok.inj ht]

theorem Numbered.unit?_error (hk : kind ≠ .int) (h : s.Numbered kind) (text : String)
    (e : Failure) : s.unit? text = .error e ↔ s.Exceeds text e ∧ kind.excess? = some e :=
  forgive_excess (fun _ he => h.unit_error he) (fun _ he => h.excess hk he) e

/-- The same of the expression in a quantity text whose literal is a number. -/
def ValueExceeds (s : UnitSystem) (text : String) (e : Failure) : Prop :=
  ∃ word rest n, Text.firstWord? text.toList = some (word, rest) ∧
    s.number.read (String.ofList word) = .ok n ∧ s.Exceeds (String.ofList rest) e

theorem Numbered.value_error (h : s.Numbered kind) {text : String} {e : Failure}
    (he : e.isParse = false) : s.value text = .error e ↔ s.ValueExceeds text e := by
  unfold value ValueExceeds
  cases hw : Text.firstWord? text.toList with
  | none =>
    constructor
    · intro hf
      rw [← Except.error.inj hf] at he
      cases he
    · rintro ⟨word, rest, n, hw', -⟩
      cases hw'
  | some pair =>
    obtain ⟨word, rest⟩ := pair
    dsimp only
    cases hn : s.number.read (String.ofList word) with
    | error failure =>
      constructor
      · intro hf
        rw [← Except.error.inj hf] at he
        cases he
      · rintro ⟨word', rest', n, hw', hn', -⟩
        cases hw'
        rw [hn] at hn'
        cases hn'
    | ok n =>
      dsimp only
      rw [map_eq_error, h.unit_error he]
      constructor
      · intro hx
        exact ⟨word, rest, n, rfl, hn, hx⟩
      · rintro ⟨word', rest', n', hw', -, hx⟩
        cases hw'
        exact hx

theorem Numbered.value_excess (hk : kind ≠ .int) (h : s.Numbered kind) {text : String}
    {e : Failure} (hx : s.ValueExceeds text e) : kind.excess? = some e := by
  obtain ⟨word, rest, n, -, -, he⟩ := hx
  exact h.excess hk he

theorem Numbered.value?_error (hk : kind ≠ .int) (h : s.Numbered kind) (text : String)
    (e : Failure) : s.value? text = .error e ↔ s.ValueExceeds text e ∧ kind.excess? = some e :=
  forgive_excess (fun _ he => h.value_error he) (fun _ he => h.value_excess hk he) e

/-- On every text the lenient readers of a preset answer with a unit or a quantity, or with
nothing. The exceptions are the texts whose factors are too large for the kind of numbers: those
fail, with the failure that the kind has for it. Fractions have none. -/
theorem lenient_si {kind : NumberKind} (hk : kind ≠ .int) :
    ∃ s, si kind = .ok s ∧ ∀ text e,
      (s.unit? text = .error e ↔ s.Exceeds text e ∧ kind.excess? = some e) ∧
      (s.value? text = .error e ↔ s.ValueExceeds text e ∧ kind.excess? = some e) := by
  obtain ⟨s, hs, h⟩ := numbered_si hk
  refine ⟨s, hs, ?_⟩
  intro text e
  exact ⟨h.unit?_error hk text e, h.value?_error hk text e⟩

/-- The failure of an operation, if it fails. -/
def failure? {α : Type} : Except Failure α → Option Failure
  | .ok _ => none
  | .error failure => some failure

theorem failure?_eq_some {α : Type} {x : Except Failure α} {e : Failure} :
    failure? x = some e ↔ x = .error e := by
  cases x <;> simp [failure?]

theorem failure?_bind {α β : Type} {x : Except Failure α} {a : α} (hx : x = .ok a)
    (f : α → Except Failure β) : failure? (x >>= f) = failure? (f a) := by
  rw [hx]
  rfl

/-- The square of a kilometre is read. Its power of 400000 exceeds, behind another unit and behind a
number. -/
theorem lenient_si_decimal : NumberKind.decimal ≠ .int ∧
    ∃ s, si .decimal = .ok s ∧ s.Exceeds "s-1 km400000" .decimalOverflow ∧
      s.ValueExceeds "5 km400000" .decimalOverflow ∧ ¬s.Exceeds "km2" .decimalOverflow := by
  have hk : NumberKind.decimal ≠ .int := by decide
  have hunit : failure? (si .decimal >>= fun s => s.unit? "s-1 km400000") =
      some .decimalOverflow := by
    decide +kernel
  have hvalue : failure? (si .decimal >>= fun s => s.value? "5 km400000") =
      some .decimalOverflow := by
    decide +kernel
  have hread : failure? (si .decimal >>= fun s => s.unit? "km2") = none := by
    decide +kernel
  obtain ⟨s, hs, h⟩ := lenient_si hk
  rw [failure?_bind hs] at hunit hvalue hread
  refine ⟨hk, s, hs, ?_, ?_, ?_⟩
  · exact ((h _ _).1.mp (failure?_eq_some.mp hunit)).1
  · exact ((h _ _).2.mp (failure?_eq_some.mp hvalue)).1
  · intro hx
    have hf := (h _ _).1.mpr ⟨hx, rfl⟩
    rw [hf] at hread
    cases hread

/-- A kilometre to the power of 400000 is too large for decimals. -/
theorem unit?_long_power :
    ∃ s, si .decimal = .ok s ∧ s.unit? "km400000" = .error .decimalOverflow := by
  have hk : NumberKind.decimal ≠ .int := by decide
  have hf : failure? (si .decimal >>= fun s => s.unit? "km400000") = some .decimalOverflow := by
    decide +kernel
  obtain ⟨s, hs, -⟩ := numbered_si hk
  rw [failure?_bind hs] at hf
  exact ⟨s, hs, failure?_eq_some.mp hf⟩

end Metrology.UnitSystem
