import Metrology.Proofs.Expression.Meaning
import Metrology.Proofs.System.Preset
import Metrology.System.Reading

namespace Metrology

namespace UnitSystem

/-- A system over fractions, every entry of which is a unit with a factor other than zero. -/
structure Proper (s : UnitSystem) : Prop where
  number : s.number = .ratio
  entries : ∀ e ∈ s.registry.entries, ∃ u : ProperUnit, e.2 = u.operand

variable {s : UnitSystem}

theorem Proper.register (h : s.Proper) (symbol : String) (u : ProperUnit) :
    (s.register symbol u.operand).Proper := by
  refine ⟨h.number, ?_⟩
  intro e he
  rcases Registry.mem_bind he with rfl | he
  · exact ⟨u, rfl⟩
  · exact h.entries e he

theorem proper_withBase (base : BaseUnits) : (withBase base .ratio).Proper := by
  refine withBase_induction ⟨rfl, by simp⟩ fun s axis h => ?_
  exact h.register (base.symbol axis) ⟨⟨.power axis 1, 1⟩, one_ne_zero⟩

def west : ProperUnit :=
  ⟨⟨.power .length 1, -1⟩, by decide⟩

/-- The base units, and a metre that counts backwards. -/
def compass : UnitSystem :=
  (withBase .si .ratio).register "west" west.operand

theorem proper_compass : compass.Proper :=
  (proper_withBase .si).register "west" west

theorem lookup_of_not_contains {symbol : String} (h : s.contains symbol = false) :
    s.lookup symbol = .error (.unknownUnit symbol) := by
  have hg : s.get? symbol = none := Option.not_isSome_iff_eq_none.mp (by simpa [contains] using h)
  rw [lookup, hg]

/-- Whether a table has the unit of each registered symbol under the key of the symbol. -/
def Tabulates (s : UnitSystem) (table : String → ProperUnit) : Prop :=
  ∀ symbol, s.contains symbol = true →
    s.lookup symbol = .ok (table (symbolKey symbol)).operand

theorem Proper.exists_table (h : s.Proper) : ∃ table, s.Tabulates table := by
  have hkey : ∀ key, ∃ u : ProperUnit, ∀ entry, s.registry.find? key = some entry →
      entry = u.operand := by
    intro key
    cases hf : s.registry.find? key with
    -- Nothing is asked of a key that is not registered, and any unit will do.
    | none => exact ⟨1, nofun⟩
    | some entry =>
      obtain ⟨u, hu⟩ := h.entries _ (Registry.mem_of_find? hf)
      exact ⟨u, fun _ he => (Option.some.inj he).symm.trans hu⟩
  choose table ht using hkey
  refine ⟨table, fun symbol hc => ?_⟩
  obtain ⟨entry, hg⟩ := Option.isSome_iff_exists.mp hc
  rw [lookup, hg, ht (symbolKey symbol) entry hg]

/-- Whether a text scans to some terms, and their symbols are all registered. -/
def Resolves (s : UnitSystem) (text : String) (ts : List Term) : Prop :=
  Expression.scan text = ⟨ts, none⟩ ∧ ∀ t ∈ ts, s.contains t.symbol = true

theorem resolves_of_check {text : String} {ts : List Term}
    (ht : (Expression.scan text).terms = ts) (hf : (Expression.scan text).failure? = none)
    (hc : ∀ t ∈ ts, s.contains t.symbol = true) : s.Resolves text ts :=
  ⟨Expression.scan_eq_of_parts ht hf, hc⟩

theorem unit_of_terms {text : String} {ts : List Term} (hn : s.number = .ratio)
    (hs : Expression.scan text = ⟨ts, none⟩) :
    s.unit text = Expression.product s.lookup (1 : ProperUnit).unit ts := by
  have hi : s.identity = (1 : ProperUnit).unit := by
    rw [identity, hn]
    rfl
  have ht : Expression.terms text = .ok ts := by
    unfold Expression.terms
    rw [hs]
  unfold unit Expression.unit
  rw [ht, hi]
  rfl

theorem unit_of_failure {text : String} {failure : Failure}
    (hf : (Expression.scan text).failure? = some failure) : s.unit text = .error failure := by
  unfold unit Expression.unit Expression.terms
  rw [hf]
  rfl

theorem Tabulates.unit_eq {table : String → ProperUnit} (hn : s.number = .ratio)
    (ht : s.Tabulates table) {text : String} {ts : List Term} (hr : s.Resolves text ts) :
    s.unit text = .ok (Expression.meaning table ts).unit := by
  have hl : ∀ t ∈ ts, s.lookup t.symbol = .ok (table (symbolKey t.symbol)).operand :=
    fun t hm => ht t.symbol (hr.2 t hm)
  rw [unit_of_terms hn hr.1, Expression.product_bound hl, one_mul]

/-- The first symbol that is not registered is the one that is reported. -/
theorem Tabulates.unit_unknown {table : String → ProperUnit} (hn : s.number = .ratio)
    (ht : s.Tabulates table) {text : String} {ts : List Term}
    (hs : Expression.scan text = ⟨ts, none⟩) {t : Term}
    (hf : ts.find? (fun t => !s.contains t.symbol) = some t) :
    s.unit text = .error (.unknownUnit t.symbol) := by
  obtain ⟨hu, before, after, rfl, hb⟩ := List.find?_eq_some_iff_append.mp hf
  have hl : ∀ b ∈ before, s.lookup b.symbol = .ok (table (symbolKey b.symbol)).operand :=
    fun b hm => ht b.symbol (by simpa using hb b hm)
  have ht : s.lookup t.symbol = .error (.unknownUnit t.symbol) :=
    lookup_of_not_contains (by simpa using hu)
  rw [unit_of_terms hn hs, Expression.product_unbound hl ht]

/-- A text that is read as a unit scans, and its symbols are all registered. -/
theorem Tabulates.exists_resolves {table : String → ProperUnit} (hn : s.number = .ratio)
    (ht : s.Tabulates table) {text : String} {u : MeasureUnit Operand} (hu : s.unit text = .ok u) :
    ∃ ts, s.Resolves text ts ∧ u = (Expression.meaning table ts).unit := by
  cases hf : (Expression.scan text).failure? with
  | some failure =>
    rw [unit_of_failure hf] at hu
    cases hu
  | none =>
    have hs : Expression.scan text = ⟨(Expression.scan text).terms, none⟩ := by rw [← hf]
    cases hk : (Expression.scan text).terms.find? (fun t => !s.contains t.symbol) with
    | some t =>
      rw [ht.unit_unknown hn hs hk] at hu
      cases hu
    | none =>
      have hr : s.Resolves text _ := ⟨hs, by simpa using List.find?_eq_none.mp hk⟩
      rw [ht.unit_eq hn hr] at hu
      exact ⟨_, hr, (Except.ok.inj hu).symm⟩

/-- The three ends that the reading of a text as a unit can come to, told from the failure of the
scan and from the first term whose symbol is not registered. -/
inductive Outcome (s : UnitSystem) (text : String) : Option Failure → Option Term → Prop
  | fault {failure : Failure} {unknown : Option Term}
      (syntactic : (∃ fault, failure = .expression text fault) ∨
        ∃ symbol digits, failure = .malformedExponent symbol digits)
      (strict : s.unit text = .error failure) (lenient : s.unit? text = .ok none) :
      Outcome s text (some failure) unknown
  | unknown {t : Term} (strict : s.unit text = .error (.unknownUnit t.symbol))
      (lenient : s.unit? text = .ok none) : Outcome s text none (some t)
  | complete {u : ProperUnit} (strict : s.unit text = .ok u.unit)
      (lenient : s.unit? text = .ok (some u.unit)) : Outcome s text none none

/-- A text that does not scan fails as its scan does, whatever symbols it has. Of a text that scans,
the first symbol that is not registered is reported. Every other text is read as a unit. There are
no other failures, and the lenient reader answers with nothing in place of these. -/
theorem unit_outcome (h : s.Proper) (text : String) :
    s.Outcome text (Expression.scan text).failure?
      ((Expression.scan text).terms.find? fun t => !s.contains t.symbol) := by
  obtain ⟨table, ht⟩ := h.exists_table
  -- The scan comes first, then the first symbol without an entry. With neither the product is one
  -- of proper units, and those never fail.
  cases hf : (Expression.scan text).failure? with
  | some failure =>
    have hu := unit_of_failure (s := s) hf
    have hc := Expression.scan_failure hf
    refine .fault hc hu ?_
    rw [unit?, hu]
    rcases hc with ⟨fault, rfl⟩ | ⟨symbol, digits, rfl⟩ <;> rfl
  | none =>
    have hs : Expression.scan text = ⟨(Expression.scan text).terms, none⟩ := by rw [← hf]
    cases hk : (Expression.scan text).terms.find? (fun t => !s.contains t.symbol) with
    | some t =>
      have hu := ht.unit_unknown h.number hs hk
      refine .unknown hu ?_
      rw [unit?, hu]
      rfl
    | none =>
      have hu := ht.unit_eq h.number ⟨hs, by simpa using List.find?_eq_none.mp hk⟩
      refine .complete hu ?_
      rw [unit?, hu]
      rfl

theorem unit_outcome_compass : compass.Proper ∧
    compass.Outcome "xyz m-" (some (.malformedExponent "m" "-")) (some ⟨"xyz", 1, false⟩) := by
  have h := unit_outcome proper_compass "xyz m-"
  have hf : (Expression.scan "xyz m-").failure? = some (.malformedExponent "m" "-") := by
    decide +kernel
  have hk : (Expression.scan "xyz m-").terms.find? (fun t => !compass.contains t.symbol) =
      some ⟨"xyz", 1, false⟩ := by
    decide +kernel
  rw [hf, hk] at h
  exact ⟨proper_compass, h⟩

/-- A text whose symbols are all registered is read as the unit whose dimension is the sum of the
dimensions of the symbols, each times its signed exponent, and whose factor is the product of the
factors raised to these exponents. Texts in which each key has the same net exponent are read as
the same unit. -/
theorem unit_meaning (h : s.Proper) :
    ∃ table : String → ProperUnit, s.Tabulates table ∧
      (∀ text ts, s.Resolves text ts → ∃ u : ProperUnit, s.unit text = .ok u.unit ∧
        (∀ axis, u.dimension.exponent axis = (ts.map fun t =>
          t.signedExponent * (table (symbolKey t.symbol)).dimension.exponent axis).sum) ∧
        u.factor = (ts.map fun t =>
          (table (symbolKey t.symbol)).factor ^ t.signedExponent).prod) ∧
      ∀ first second ts us, s.Resolves first ts → s.Resolves second us →
        (∀ key, Expression.netExponent key ts = Expression.netExponent key us) →
        ∃ u : ProperUnit, s.unit first = .ok u.unit ∧ s.unit second = .ok u.unit := by
  obtain ⟨table, ht⟩ := h.exists_table
  refine ⟨table, ht, fun text ts hr => ?_, fun first second ts us hfirst hsecond hnet => ?_⟩
  · exact ⟨Expression.meaning table ts, ht.unit_eq h.number hr,
      Expression.exponent_meaning table ts, Expression.factor_meaning table ts⟩
  · refine ⟨Expression.meaning table ts, ht.unit_eq h.number hfirst, ?_⟩
    rw [ht.unit_eq h.number hsecond, Expression.meaning_congr table hnet]

theorem unit_meaning_compass : compass.Proper ∧ ∃ u : ProperUnit,
    compass.unit "west2 m/west" = .ok u.unit ∧ compass.unit "m west" = .ok u.unit := by
  obtain ⟨table, -, -, hsame⟩ := unit_meaning proper_compass
  have hfirst : compass.Resolves "west2 m/west"
      [⟨"west", 2, false⟩, ⟨"m", 1, false⟩, ⟨"west", 1, true⟩] :=
    resolves_of_check (by decide +kernel) (by decide +kernel) (by decide +kernel)
  have hsecond : compass.Resolves "m west" [⟨"m", 1, false⟩, ⟨"west", 1, false⟩] :=
    resolves_of_check (by decide +kernel) (by decide +kernel) (by decide +kernel)
  refine ⟨proper_compass, hsame _ _ _ _ hfirst hsecond fun key => ?_⟩
  simp only [Expression.netExponent_cons, Term.signedExponent, Bool.false_eq_true, if_false,
    if_true]
  split <;> omega

end UnitSystem

end Metrology
