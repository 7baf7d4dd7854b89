import Mathlib.Data.Rat.Lemmas
import Metrology.Proofs.Expression.Outcome
import Metrology.Proofs.Expression.Scanning
import Metrology.Proofs.Number.Decimal.TenPowers
import Metrology.Proofs.System.Preset
import Metrology.System.Reading

namespace Metrology

open Decimal (InRange)

/-- The length of the numerator beyond that of the denominator. Of a power of ten it is the
exponent. -/
def decimalExponent (q : Rat) : Int :=
  (digitCount q.num.natAbs : Int) - digitCount q.den

theorem ten_zpow_natCast (n : Nat) : (10 : Rat) ^ (n : Int) = (pow10 n : Nat) := by
  simp [pow10]

theorem decimalExponent_ten (e : Int) : decimalExponent (10 ^ e) = e := by
  have hone : digitCount 1 = 1 := rfl
  unfold decimalExponent
  obtain ⟨n, rfl | rfl⟩ := e.eq_nat_or_neg
  · rw [ten_zpow_natCast, Rat.num_natCast, Rat.den_natCast, Int.natAbs_natCast, digitCount_pow10,
      hone]
    omega
  · rw [zpow_neg, ten_zpow_natCast, Rat.inv_natCast_num_of_pos (pow10_pos n),
      Rat.inv_natCast_den_of_pos (pow10_pos n), digitCount_pow10]
    change ((digitCount 1 : Nat) : Int) - _ = _
    omega

theorem eq_ten_zpow {q : Rat} {e : Int} (hn : q.num = pow10 e.toNat)
    (hd : q.den = pow10 (-e).toNat) : q = 10 ^ e := by
  rw [← Rat.num_div_den q, hn, hd]
  obtain ⟨n, rfl | rfl⟩ := e.eq_nat_or_neg
  · rw [ten_zpow_natCast]
    simp [pow10]
  · rw [zpow_neg, ten_zpow_natCast]
    simp [pow10]

namespace Number

def tenRatio (e : Int) : Number :=
  .ratio (10 ^ e)

def tenDecimal (e : Int) : Number :=
  .decimal (.finite false 1 e)

theorem value?_tenDecimal (e : Int) : (tenDecimal e).value? = some (10 ^ e) :=
  congrArg some (by simp [Decimal.signed, scaled])

end Number

open Number (tenRatio tenDecimal)

namespace Expression

theorem timesPower_tenRatio (a e k : Int) :
    timesPower (tenRatio a) (tenRatio e, k) = .ok (tenRatio (a + e * k)) := by
  have hten : (10 : Rat) ≠ 0 := by norm_num
  have hpow : (tenRatio e).pow k = .ok (.ratio ((10 ^ e) ^ k)) :=
    Number.pow_ratio_of_ne_zero (zpow_ne_zero e hten) k
  unfold timesPower
  rw [hpow]
  change Except.ok (Number.ratio (10 ^ a * (10 ^ e) ^ k)) = _
  rw [← zpow_mul, ← zpow_add₀ hten]
  rfl

theorem timesPower_tenDecimal {a e k : Int} (hpow : InRange (e * k)) (hmul : InRange (a + e * k)) :
    timesPower (tenDecimal a) (tenDecimal e, k) = .ok (tenDecimal (a + e * k)) := by
  have hp : (tenDecimal e).pow k = .ok (tenDecimal (e * k)) :=
    congrArg (Except.map Number.decimal) (Decimal.pow_ten hpow)
  have hm : (tenDecimal a).mul (tenDecimal (e * k)) = .ok (tenDecimal (a + e * k)) :=
    congrArg (Except.map Number.decimal) (Decimal.mul_ten hmul)
  unfold timesPower
  rw [hp]
  exact hm

/-- The exponent of the power of ten that a term stands for, given those of the symbols. -/
def tens (scale : String → Int) (t : Term) : Int :=
  scale t.symbol * t.signedExponent

/-- The exponent of a product of terms. -/
def totalTens (scale : String → Int) (ts : List Term) : Int :=
  (ts.map (tens scale)).sum

/-- Whether the powers and their products, from the left on, all have exponents in range. -/
structure StaysInRange (scale : String → Int) (a : Int) (ts : List Term) : Prop where
  powers : ∀ t ∈ ts, InRange (tens scale t)
  products : ∀ n, InRange (a + totalTens scale (ts.take n))

theorem StaysInRange.tail {scale : String → Int} {a : Int} {t : Term} {ts : List Term}
    (h : StaysInRange scale a (t :: ts)) : StaysInRange scale (a + tens scale t) ts := by
  constructor
  · intro t' ht
    exact h.powers t' (by simp [ht])
  · intro n
    have hn := h.products (n + 1)
    rw [List.take_succ_cons, totalTens, List.map_cons, List.sum_cons, ← add_assoc] at hn
    exact hn

/-- Where symbols are bound to the same powers of ten in both kinds, products are too. -/
theorem product_tens {exact decimal : String → Except Failure Operand} {scale : String → Int}
    {ts : List Term} (hl : ∀ t ∈ ts, ∃ d,
      exact t.symbol = .ok (.unit ⟨d, .number (tenRatio (scale t.symbol))⟩) ∧
      decimal t.symbol = .ok (.unit ⟨d, .number (tenDecimal (scale t.symbol))⟩))
    {a : Int} (hr : StaysInRange scale a ts) (d : Dimension) :
    ∃ e, product exact ⟨d, .number (tenRatio a)⟩ ts =
        .ok ⟨e, .number (tenRatio (a + totalTens scale ts))⟩ ∧
      product decimal ⟨d, .number (tenDecimal a)⟩ ts =
        .ok ⟨e, .number (tenDecimal (a + totalTens scale ts))⟩ := by
  induction ts generalizing a d with
  | nil =>
    rw [totalTens, List.map_nil, List.sum_nil, add_zero]
    exact ⟨d, rfl, rfl⟩
  | cons t ts ih =>
    obtain ⟨c, hexact, hdecimal⟩ := hl t (by simp)
    have hpow := hr.powers t (by simp)
    have hmul : InRange (a + tens scale t) := by
      simpa [totalTens] using hr.products 1
    rw [product_cons_number hexact, product_cons_number hdecimal, timesPower_tenRatio,
      timesPower_tenDecimal hpow hmul]
    obtain ⟨e, he, hd⟩ := ih (fun t' ht => hl t' (by simp [ht])) hr.tail
      (d + c.scale t.signedExponent)
    have htotal : a + totalTens scale (t :: ts) = a + tens scale t + totalTens scale ts := by
      rw [totalTens, List.map_cons, List.sum_cons, ← add_assoc]
      rfl
    rw [htotal]
    exact ⟨e, he, hd⟩

end Expression

namespace UnitSystem

open Expression (StaysInRange totalTens)

/-- The keys of the preset units whose factors are no powers of ten. -/
def clockKeys : List String := ["min", "h", "d"]

/-- Entries of the two presets under one key. -/
inductive Paired (key : String) : Option Operand → Option Operand → Prop
  | absent : Paired key none none
  | clock (h : key ∈ clockKeys) (x y : Operand) : Paired key (some x) (some y)
  | ten (d : Dimension) (e : Int) : Paired key (some (.unit ⟨d, .number (tenRatio e)⟩))
      (some (.unit ⟨d, .number (tenDecimal e)⟩))

/-- Systems over the two kinds with paired entries. -/
structure Parallel (exact decimal : UnitSystem) : Prop where
  exact_number : exact.number = .ratio
  decimal_number : decimal.number = .decimal
  entries : ∀ key, Paired key (exact.registry.find? key) (decimal.registry.find? key)

theorem Parallel.register {exact decimal : UnitSystem} (h : Parallel exact decimal)
    {symbol : String} {x y : Operand} (hp : Paired (symbolKey symbol) (some x) (some y)) :
    Parallel (exact.register symbol x) (decimal.register symbol y) := by
  refine ⟨h.exact_number, h.decimal_number, ?_⟩
  intro key
  change Paired key ((exact.registry.insert _ x).find? key)
    ((decimal.registry.insert _ y).find? key)
  rw [Registry.find?_insert, Registry.find?_insert]
  by_cases hk : key = symbolKey symbol
  · rw [if_pos hk, if_pos hk, hk]
    exact hp
  · rw [if_neg hk, if_neg hk]
    exact h.entries key

theorem paired_base (key : String) (d : Dimension) :
    Paired key (some (.unit (.base d .ratio))) (some (.unit (.base d .decimal))) := by
  have h : Paired key (some (.unit ⟨d, .number (tenRatio 0)⟩))
      (some (.unit ⟨d, .number (tenDecimal 0)⟩)) := .ten d 0
  rw [tenRatio, zpow_zero] at h
  exact h

theorem parallel_withBase : Parallel (withBase .si .ratio) (withBase .si .decimal) := by
  have hfold (items : List (String × Dimension)) {s t : UnitSystem} (h : Parallel s t) :
      Parallel (items.foldl (fun s item => s.register item.1 (.unit (.base item.2 .ratio))) s)
        (items.foldl (fun s item => s.register item.1 (.unit (.base item.2 .decimal))) t) := by
    induction items generalizing s t with
    | nil => exact h
    | cons item items ih => exact ih (h.register (paired_base _ item.2))
  exact hfold BaseUnits.si.items ⟨rfl, rfl, fun key => .absent⟩

/-- Whether both kinds read a literal as the same power of ten. -/
def readsTen (text : String) : Bool :=
  match NumberKind.ratio.read text, NumberKind.decimal.read text with
  | .ok (.ratio q), .ok (.decimal (.finite false 1 e)) =>
    q.num == pow10 e.toNat && q.den == pow10 (-e).toNat
  | _, _ => false

theorem readsTen_preset :
    ∀ item ∈ presetUnits, symbolKey item.1 ∈ clockKeys ∨ readsTen item.2.1 = true := by
  decide +kernel

theorem paired_preset {item : String × String × Dimension} (hi : item ∈ presetUnits) :
    ∃ m n, NumberKind.ratio.read item.2.1 = .ok m ∧ NumberKind.decimal.read item.2.1 = .ok n ∧
      Paired (symbolKey item.1) (some (.unit ⟨item.2.2, .number m⟩))
        (some (.unit ⟨item.2.2, .number n⟩)) := by
  rcases readsTen_preset item hi with hkey | hten
  · have hratio : NumberKind.ratio ≠ .int := by decide
    have hdecimal : NumberKind.decimal ≠ .int := by decide
    obtain ⟨m, hm, -⟩ := read_preset hratio hi
    obtain ⟨n, hn, -⟩ := read_preset hdecimal hi
    exact ⟨m, n, hm, hn, .clock hkey _ _⟩
  · unfold readsTen at hten
    split at hten
    · next q e hq he =>
      obtain ⟨hnum, hden⟩ := Bool.and_eq_true_iff.mp hten
      have hvalue : q = 10 ^ e := eq_ten_zpow (eq_of_beq hnum) (eq_of_beq hden)
      refine ⟨_, _, hq, he, ?_⟩
      rw [hvalue]
      exact .ten item.2.2 e
    · cases hten

theorem parallel_si : ∃ exact decimal, si .ratio = .ok exact ∧ si .decimal = .ok decimal ∧
    Parallel exact decimal := by
  have hfold (items : List (String × String × Dimension)) (hi : ∀ item ∈ items, item ∈ presetUnits)
      {s t : UnitSystem} (h : Parallel s t) :
      ∃ exact decimal, items.foldlM addPreset s = .ok exact ∧
        items.foldlM addPreset t = .ok decimal ∧ Parallel exact decimal := by
    induction items generalizing s t with
    | nil => exact ⟨s, t, rfl, rfl, h⟩
    | cons item items ih =>
      obtain ⟨m, n, hm, hn, hp⟩ := paired_preset (hi item (by simp))
      have hs : addPreset s item = .ok (s.register item.1 (.unit ⟨item.2.2, .number m⟩)) := by
        rw [addPreset, h.exact_number, hm]
        rfl
      have ht : addPreset t item = .ok (t.register item.1 (.unit ⟨item.2.2, .number n⟩)) := by
        rw [addPreset, h.decimal_number, hn]
        rfl
      rw [List.foldlM_cons, List.foldlM_cons, hs, ht]
      exact ih (fun i him => hi i (by simp [him])) (h.register hp)
  exact hfold presetUnits (fun _ h => h) parallel_withBase

/-- The exponent of the power of ten that is the factor of a symbol's unit. -/
def scale (s : UnitSystem) (symbol : String) : Int :=
  match s.lookup symbol with
  | .ok (.unit ⟨_, .number (.ratio q)⟩) => decimalExponent q
  | _ => 0

theorem Parallel.lookup_ten {exact decimal : UnitSystem} (h : Parallel exact decimal)
    {symbol : String} (hc : exact.contains symbol = true) (hk : symbolKey symbol ∉ clockKeys) :
    ∃ d, exact.lookup symbol = .ok (.unit ⟨d, .number (tenRatio (exact.scale symbol))⟩) ∧
      decimal.lookup symbol = .ok (.unit ⟨d, .number (tenDecimal (exact.scale symbol))⟩) := by
  have hp := h.entries (symbolKey symbol)
  generalize hx : exact.registry.find? (symbolKey symbol) = x at hp
  generalize hy : decimal.registry.find? (symbolKey symbol) = y at hp
  cases hp with
  | absent => simp [contains, get?, hx] at hc
  | clock hclock => exact absurd hclock hk
  | ten d e =>
    have hexact : exact.lookup symbol = .ok (.unit ⟨d, .number (tenRatio e)⟩) := by
      rw [lookup, get?, hx]
    have hdecimal : decimal.lookup symbol = .ok (.unit ⟨d, .number (tenDecimal e)⟩) := by
      rw [lookup, get?, hy]
    have hscale : exact.scale symbol = e := by
      rw [scale, hexact]
      exact decimalExponent_ten e
    rw [hscale]
    exact ⟨d, hexact, hdecimal⟩

/-- Whether all symbols are bound, and none of them to a unit of time that is no power of ten of a
second. -/
def Decadic (s : UnitSystem) (ts : List Term) : Prop :=
  ∀ t ∈ ts, s.contains t.symbol = true ∧ symbolKey t.symbol ∉ clockKeys

/-- The preset over decimals reads a text as the unit that the one over fractions reads it as, with
an equal factor. It does so for every text that scans, whose symbols stand for powers of ten, and
of which neither a power nor a product on the way leaves the range of the exponents. -/
theorem decimal_agrees_with_exact : ∃ exact decimal,
    si .ratio = .ok exact ∧ si .decimal = .ok decimal ∧
      ∀ text ts, Expression.scan text = ⟨ts, none⟩ → exact.Decadic ts →
        StaysInRange exact.scale 0 ts → ∃ d,
          exact.unit text = .ok ⟨d, .number (tenRatio (totalTens exact.scale ts))⟩ ∧
          decimal.unit text = .ok ⟨d, .number (tenDecimal (totalTens exact.scale ts))⟩ ∧
          (tenDecimal (totalTens exact.scale ts)).equal (tenRatio (totalTens exact.scale ts)) =
            .ok true := by
  obtain ⟨exact, decimal, hexact, hdecimal, h⟩ := parallel_si
  refine ⟨exact, decimal, hexact, hdecimal, ?_⟩
  intro text ts hs hd hr
  have hterms : Expression.terms text = .ok ts := by
    unfold Expression.terms
    rw [hs]
  have hunit (s : UnitSystem) : s.unit text = Expression.product s.lookup s.identity ts := by
    unfold unit Expression.unit
    rw [hterms]
    rfl
  have hfractions : exact.identity = ⟨0, .number (tenRatio 0)⟩ := by
    rw [identity, h.exact_number, tenRatio, zpow_zero]
    rfl
  have hdecimals : decimal.identity = ⟨0, .number (tenDecimal 0)⟩ := by
    rw [identity, h.decimal_number]
    rfl
  obtain ⟨d, hq, hx⟩ := Expression.product_tens
    (fun t ht => h.lookup_ten (hd t ht).1 (hd t ht).2) hr 0
  rw [zero_add] at hq hx
  refine ⟨d, ?_, ?_, ?_⟩
  · rw [hunit, hfractions, hq]
  · rw [hunit, hdecimals, hx]
  · rw [Number.equal_eq (Number.value?_tenDecimal _) rfl, decide_eq_true rfl]

/-- Square kilometres by the millisecond. -/
theorem decimal_agrees_with_exact_area_rate : ∃ exact decimal d,
    si .ratio = .ok exact ∧ si .decimal = .ok decimal ∧
      exact.unit "km²/ms" = .ok ⟨d, .number (tenRatio 9)⟩ ∧
      decimal.unit "km²/ms" = .ok ⟨d, .number (tenDecimal 9)⟩ := by
  obtain ⟨exact, decimal, hexact, hdecimal, h⟩ := decimal_agrees_with_exact
  have hs : Expression.scan "km²/ms" = ⟨[⟨"km", 2, false⟩, ⟨"ms", 1, true⟩], none⟩ :=
    Expression.scan_eq_of_parts (by decide +kernel) (by decide +kernel)
  have hkeys : ∀ t ∈ [(⟨"km", 2, false⟩ : Term), ⟨"ms", 1, true⟩],
      symbolKey t.symbol ∉ clockKeys := by
    decide +kernel
  have hknown : (si .ratio).toOption.map (fun s => (s.scale "km", s.scale "ms",
      s.contains "km", s.contains "ms")) = some (3, -3, true, true) := by
    decide +kernel
  rw [hexact] at hknown
  have hvalues := Option.some.inj hknown
  simp only [Prod.mk.injEq] at hvalues
  obtain ⟨hkm, hms, hckm, hcms⟩ := hvalues
  have hdecadic : exact.Decadic [⟨"km", 2, false⟩, ⟨"ms", 1, true⟩] := by
    intro t ht
    refine ⟨?_, hkeys t ht⟩
    simp only [List.mem_cons, List.not_mem_nil, or_false] at ht
    rcases ht with rfl | rfl
    · exact hckm
    · exact hcms
  have hrange : StaysInRange exact.scale 0 [⟨"km", 2, false⟩, ⟨"ms", 1, true⟩] := by
    constructor
    · intro t ht
      simp only [List.mem_cons, List.not_mem_nil, or_false] at ht
      rcases ht with rfl | rfl
      · simp [Decimal.inRange_iff, Expression.tens, hkm, Term.signedExponent]
      · simp [Decimal.inRange_iff, Expression.tens, hms, Term.signedExponent]
    · intro n
      match n with
      | 0 => simp [Decimal.inRange_iff, totalTens]
      | 1 => simp [Decimal.inRange_iff, totalTens, Expression.tens, hkm, Term.signedExponent]
      | n + 2 =>
        simp [Decimal.inRange_iff, totalTens, Expression.tens, hkm, hms, Term.signedExponent]
  obtain ⟨d, hq, hx, -⟩ := h _ _ hs hdecadic hrange
  have htotal : totalTens exact.scale [⟨"km", 2, false⟩, ⟨"ms", 1, true⟩] = 9 := by
    simp [totalTens, Expression.tens, hkm, hms, Term.signedExponent]
  rw [htotal] at hq hx
  exact ⟨exact, decimal, d, hexact, hdecimal, hq, hx⟩

end UnitSystem

end Metrology
