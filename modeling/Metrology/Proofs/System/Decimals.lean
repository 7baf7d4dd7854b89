import Metrology.Proofs.Number.Decimal.Differences
import Metrology.Proofs.Quantity.Rescaling
import Metrology.Proofs.System.Assembly

namespace Metrology

/-- A unit with a positive normal decimal for its factor. -/
structure NormalUnit extends DecimalUnit where
  positive : 0 < value
  normal : factor.Normal

namespace NormalUnit

def operand (u : NormalUnit) : Operand :=
  u.toDecimalUnit.operand

/-- A coefficient of few enough digits, and an exponent in range. -/
def ofFinite (d : Dimension) {c : Nat} {e : Int} (hc : c ≠ 0) (hl : digitCount c ≤ Decimal.precision)
    (hr : Decimal.minExponent ≤ Decimal.adjusted c e ∧
      Decimal.adjusted c e ≤ Decimal.maxExponent) : NormalUnit where
  dimension := d
  factor := .finite false c e
  value := scaled c e
  factor_value := rfl
  nonzero := (scaled_pos_iff.mpr (by omega)).ne'
  positive := scaled_pos_iff.mpr (by omega)
  normal := ⟨⟨c, 0, (Nat.mul_one c).symm, hl⟩, .inr hr⟩

def base (d : Dimension) : NormalUnit :=
  ofFinite d (c := 1) (e := 0) (by decide) (by decide) (by decide)

end NormalUnit

namespace UnitSystem

/-- The systems over decimals that registrations lead to from the preset. -/
inductive DecimalAssembled : UnitSystem → Prop
  | si {s : UnitSystem} (h : si .decimal = .ok s) : DecimalAssembled s
  | register {s : UnitSystem} {symbol : String} (hs : DecimalAssembled s) (hk : Spelled symbol)
      (u : NormalUnit) : DecimalAssembled (s.register symbol u.operand)

/-- Whether a literal is of a positive normal decimal. -/
def readsNormal (text : String) : Bool :=
  match NumberKind.decimal.read text with
  | .ok (.decimal (.finite false c e)) =>
    c ≠ 0 && digitCount c ≤ Decimal.precision && Decimal.minExponent ≤ Decimal.adjusted c e &&
      Decimal.adjusted c e ≤ Decimal.maxExponent
  | _ => false

theorem readsNormal_preset : ∀ item ∈ presetUnits, readsNormal item.2.1 = true := by
  decide +kernel

theorem exists_normalUnit {text : String} (h : readsNormal text = true) {n : Number}
    (hn : NumberKind.decimal.read text = .ok n) (d : Dimension) :
    ∃ u : NormalUnit, u.operand = .unit ⟨d, .number n⟩ := by
  unfold readsNormal at h
  rw [hn] at h
  split at h
  · rename_i c e he
    obtain rfl := Except.ok.inj he
    simp only [ne_eq, decide_not, Bool.and_eq_true, Bool.not_eq_true', decide_eq_false_iff_not,
      decide_eq_true_eq] at h
    obtain ⟨⟨⟨hc, hl⟩, hlow⟩, hhigh⟩ := h
    exact ⟨.ofFinite d hc hl ⟨hlow, hhigh⟩, rfl⟩
  · cases h

/-- What the registry of such a system is like. -/
def ListsDecimals (s : UnitSystem) (es : List (String × NormalUnit)) : Prop :=
  s.number = .decimal ∧ s.Catalogues NormalUnit.operand es

theorem listsDecimals_si : ∃ s, si .decimal = .ok s ∧ ∃ es, s.ListsDecimals es := by
  have hk : NumberKind.decimal ≠ .int := by decide
  apply si_induction hk
  · exact ⟨[], rfl, catalogues_empty _ _ _⟩
  · rintro s axis ⟨es, hn, hs⟩
    exact ⟨_, hn, hs.register (spelled_si axis (Axis.mem_all axis)) (.base (.power axis 1))⟩
  · rintro s ⟨es, hn, -⟩
    exact hn
  · rintro s item hi n hread - ⟨es, hn, hs⟩
    obtain ⟨u, hu⟩ := exists_normalUnit (readsNormal_preset item hi) hread item.2.2
    rw [← hu]
    exact ⟨_, hn, hs.register (spelled_preset item hi) u⟩

theorem DecimalAssembled.lists {s : UnitSystem} (h : s.DecimalAssembled) :
    ∃ es, s.ListsDecimals es := by
  induction h with
  | si h =>
    obtain ⟨s, hs, he⟩ := listsDecimals_si
    rw [h] at hs
    obtain rfl := Except.ok.inj hs
    exact he
  | register _ hk u ih =>
    obtain ⟨es, hn, hs⟩ := ih
    exact ⟨_, hn, hs.register hk u⟩

theorem lt_number {a b : Number} {p q : Rat} (ha : a.value? = some p) (hb : b.value? = some q) :
    Arithmetic.lt (Operand.number a) (.number b) = .ok (decide (p < q)) := by
  change (a.order b).map _ = _
  rw [Number.order_eq ha hb]
  change Except.ok (some (Number.compareRat p q) == some .lt) = _
  congr 1
  rw [Bool.eq_iff_iff, decide_eq_true_iff, ← Number.compareRat_lt]
  simp

variable {target : NormalUnit}

/-- Whether a candidate stands for an entry. The distance of the two factors is nothing exactly if
they are equal. -/
structure StandsFor (target : NormalUnit) (e : String × NormalUnit) (c : Candidate) (x : Rat) :
    Prop where
  symbol : c.symbol = e.1
  unit : c.unit = e.2.unit
  distance : ∃ d : Decimal, c.distance = .ofDecimal d ∧ d.value? = some x
  nonneg : 0 ≤ x
  zero_iff : x = 0 ↔ e.2.value = target.value

theorem StandsFor.lt {e f : String × NormalUnit} {b c : Candidate} {x y : Rat}
    (hc : StandsFor target e c x) (hb : StandsFor target f b y) :
    Arithmetic.lt c.distance b.distance = .ok (decide (x < y)) := by
  obtain ⟨d, hd, hx⟩ := hc.distance
  obtain ⟨d', hd', hy⟩ := hb.distance
  rw [hd, hd']
  exact lt_number hx hy

theorem closer_other {e : String × NormalUnit} (h : e.2.dimension ≠ target.dimension)
    (best : Option Candidate) :
    closer target.operand best (e.1, e.2.operand) = .ok best := by
  change (if e.2.dimension ≠ target.dimension then _ else _) = _
  rw [if_pos h]
  rfl

/-- An entry of the dimension is taken if there is none yet, or if it is closer than the best so
far. -/
theorem closer_same {e : String × NormalUnit} (h : e.2.dimension = target.dimension) :
    ∃ c x, StandsFor target e c x ∧
      closer target.operand none (e.1, e.2.operand) = .ok (some c) ∧
      ∀ f b y, StandsFor target f b y →
        closer target.operand (some b) (e.1, e.2.operand) =
          .ok (some (if x < y then c else b)) := by
  obtain ⟨d, d', x, hsub, habs, hx, h0, hzero⟩ := e.2.normal.distance target.normal
    e.2.factor_value target.factor_value e.2.positive.le target.positive.le
  have hs : Arithmetic.sub e.2.unit.factor target.unit.factor = .ok (Operand.ofDecimal d) := by
    change ((e.2.factor.sub target.factor).map Number.decimal).map Operand.number = _
    rw [hsub]
    rfl
  have ha : Arithmetic.abs (Operand.ofDecimal d) = .ok (Operand.ofDecimal d') := by
    change (d.abs.map Number.decimal).map Operand.number = _
    rw [habs]
    rfl
  have hc : StandsFor target e ⟨e.1, e.2.unit, .ofDecimal d'⟩ x :=
    ⟨rfl, rfl, ⟨d', rfl, hx⟩, h0, hzero⟩
  have hd : e.2.operand.dimension? = .ok e.2.dimension := rfl
  have htd : target.operand.dimension? = .ok target.dimension := rfl
  have hf : e.2.operand.factor? = .ok e.2.unit.factor := rfl
  have htf : target.operand.factor? = .ok target.unit.factor := rfl
  refine ⟨_, x, hc, ?_, fun f b y hb => ?_⟩
  · simp only [closer, hd, htd, hf, htf, bind, Except.bind, hs, ha, if_neg (not_not.mpr h)]
    rfl
  · have hlt := hc.lt hb
    dsimp only at hlt
    simp only [closer, hd, htd, hf, htf, bind, Except.bind, hs, ha, if_neg (not_not.mpr h), hlt,
      decide_eq_true_eq]
    split <;> rfl

/-- Whether a candidate stands for one of some entries of the dimension, and for an equal one if
there is an equal one. -/
def Leads (target : NormalUnit) (es : List (String × NormalUnit)) (c : Candidate) : Prop :=
  ∃ e ∈ es, ∃ x, e.2.dimension = target.dimension ∧ StandsFor target e c x ∧
    ∀ f ∈ es, f.2.dimension = target.dimension → f.2.value = target.value → x = 0

theorem Leads.concat {es : List (String × NormalUnit)} {c : Candidate} (h : Leads target es c)
    {e : String × NormalUnit} (he : e.2.dimension ≠ target.dimension) :
    Leads target (es ++ [e]) c := by
  obtain ⟨f, hf, x, hd, hc, hequal⟩ := h
  refine ⟨f, List.mem_append_left _ hf, x, hd, hc, List.forall_mem_append.mpr ⟨hequal, ?_⟩⟩
  intro g hg hgd
  rw [List.mem_singleton.mp hg] at hgd
  exact absurd hgd he

/-- The step: no entry can be closer than an equal one, which is no distance away. -/
theorem Leads.closer {es : List (String × NormalUnit)} {b : Candidate} (h : Leads target es b)
    {e : String × NormalUnit} (he : e.2.dimension = target.dimension) :
    ∃ c, closer target.operand (some b) (e.1, e.2.operand) = .ok (some c) ∧
      Leads target (es ++ [e]) c := by
  obtain ⟨f, hf, y, hd, hb, hequal⟩ := h
  obtain ⟨c, x, hc, -, hcloser⟩ := closer_same he
  refine ⟨_, hcloser f b y hb, ?_⟩
  have hx0 := hc.nonneg
  split
  · rename_i hlt
    refine ⟨e, by simp, x, he, hc, List.forall_mem_append.mpr ⟨fun g hg hgd hgv => ?_, ?_⟩⟩
    · have hy := hequal g hg hgd hgv
      linarith
    · intro g hg _ hgv
      rw [List.mem_singleton.mp hg] at hgv
      exact hc.zero_iff.mpr hgv
  · rename_i hge
    refine ⟨f, List.mem_append_left _ hf, y, hd, hb, List.forall_mem_append.mpr ⟨hequal, ?_⟩⟩
    intro g hg _ hgv
    rw [List.mem_singleton.mp hg] at hgv
    have hx := hc.zero_iff.mpr hgv
    have hy0 := hb.nonneg
    linarith

/-- The run: by induction on the entries from the last one on. -/
theorem foldlM_closer_decimal (target : NormalUnit) (es : List (String × NormalUnit)) :
    ∃ best, (es.map fun e => (e.1, e.2.operand)).foldlM (closer target.operand) none = .ok best ∧
      match best with
      | none => ∀ e ∈ es, e.2.dimension ≠ target.dimension
      | some c => Leads target es c := by
  induction es using List.reverseRecOn with
  | nil => exact ⟨none, rfl, by simp⟩
  | append_singleton es e ih =>
    obtain ⟨best, hbest, hleads⟩ := ih
    have hlast : ((es ++ [e]).map fun e => (e.1, e.2.operand)).foldlM (closer target.operand) none =
        closer target.operand best (e.1, e.2.operand) := by
      rw [List.map_append, List.foldlM_append, hbest]
      change ([(e.1, e.2.operand)].foldlM (closer target.operand) best) = _
      rw [List.foldlM_cons]
      cases closer target.operand best (e.1, e.2.operand) <;> rfl
    rw [hlast]
    by_cases hd : e.2.dimension = target.dimension
    · cases best with
      | none =>
        obtain ⟨c, x, hc, hfirst, -⟩ := closer_same hd
        refine ⟨some c, hfirst, e, by simp, x, hd, hc, List.forall_mem_append.mpr ⟨?_, ?_⟩⟩
        · exact fun g hg hgd => absurd hgd (hleads g hg)
        · intro g hg _ hgv
          rw [List.mem_singleton.mp hg] at hgv
          exact hc.zero_iff.mpr hgv
      | some b =>
        obtain ⟨c, hcloser, hc⟩ := hleads.closer hd
        exact ⟨some c, hcloser, hc⟩
    · refine ⟨best, closer_other hd best, ?_⟩
      cases best with
      | none =>
        refine List.forall_mem_append.mpr ⟨hleads, fun g hg => ?_⟩
        rw [List.mem_singleton.mp hg]
        exact hd
      | some b => exact hleads.concat hd

/-- A registered unit is displayed in a unit of its dimension with an equal factor. -/
theorem bestUnit_registered {s : UnitSystem} {es : List (String × NormalUnit)}
    (hs : s.ListsDecimals es) {key : String} (ht : (key, target) ∈ es) :
    ∃ e ∈ es, s.bestUnit target.operand = .ok (some (e.1, e.2.unit)) ∧
      e.2.dimension = target.dimension ∧ e.2.value = target.value := by
  obtain ⟨best, hbest, hleads⟩ := foldlM_closer_decimal target es
  cases best with
  | none => exact absurd rfl (hleads _ ht)
  | some c =>
    obtain ⟨e, he, x, hd, hc, hequal⟩ := hleads
    refine ⟨e, he, ?_, hd, hc.zero_iff.mp (hequal _ ht rfl rfl)⟩
    rw [bestUnit, hs.2.entries, hbest, ← hc.symbol, ← hc.unit]
    rfl

end UnitSystem

end Metrology
