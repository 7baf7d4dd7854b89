import Metrology.Proofs.Quantity.Exact
import Metrology.Proofs.System.Display
import Metrology.Proofs.System.Layout
import Metrology.Proofs.System.Symbols

namespace Metrology

/-- The unit of an exact quantity. -/
def ExactQuantity.target (v : ExactQuantity) : RatioUnit :=
  ⟨v.dimension, v.factor⟩

namespace UnitSystem

variable {s : UnitSystem} {es : List (String × RatioUnit)}

theorem bestUnit_closest (hs : s.Exact es) {target : RatioUnit} {e : String × RatioUnit}
    (h : Closest target es e) : s.bestUnit target.operand = .ok (some (e.1, e.2.unit)) :=
  Lists.bestUnit_closest hs.entries h

theorem bestUnit_none (hs : s.Exact es) {target : RatioUnit}
    (h : ∀ e ∈ es, e.2.dimension ≠ target.dimension) : s.bestUnit target.operand = .ok none :=
  Lists.bestUnit_none hs.entries h

theorem render_closest (hs : s.Exact es) {v : ExactQuantity} {e : String × RatioUnit}
    (h : Closest v.target es e) :
    s.render v.quantity =
      (ratioText (v.magnitude * (v.factor / e.2.factor))).map (· ++ " " ++ e.1) :=
  Lists.render_closest hs.entries h (ne_of_gt (hs.positive e h.mem)) v.magnitude

theorem render_inBase (hs : s.Exact es) {v : ExactQuantity}
    (h : ∀ e ∈ es, e.2.dimension ≠ v.dimension) :
    s.render v.quantity = (do
      let suffix ← s.base.product v.dimension
      let number ← ratioText (v.magnitude * v.factor)
      return if suffix = "" then number else number ++ " " ++ suffix) := by
  have hd : ∀ e ∈ es, e.2.dimension ≠ v.target.dimension := h
  exact Lists.render_inBase hs.entries hd v.magnitude

theorem value_with_unit (hn : s.number = .ratio) {number rest : String} {q : Rat}
    (hq : Literal.ratio number = .ok q) (hf : ∀ c ∈ number.toList, Literal.Figure c)
    (hne : number.toList ≠ []) (hr : ∀ c ∈ rest.toList.head?, Text.isBlank c = false) :
    s.value (number ++ " " ++ rest) = (s.unit rest).map fun u => ⟨.number (.ratio q), u⟩ := by
  have hread : s.number.read number = .ok (.ratio q) := by
    rw [hn, NumberKind.read, hq]
    rfl
  exact value_spaced (fun c hc => (hf c hc).kept.1) hne hr hread

theorem value_alone (hn : s.number = .ratio) {number : String} {q : Rat}
    (hq : Literal.ratio number = .ok q) (hf : ∀ c ∈ number.toList, Literal.Figure c)
    (hne : number.toList ≠ []) :
    s.value number = (s.unit "").map fun u => ⟨.number (.ratio q), u⟩ := by
  have hw := Text.firstWord?_word hne fun c hc => (hf c hc).kept.1
  have hread : s.number.read number = .ok (.ratio q) := by
    rw [hn, NumberKind.read, hq]
    rfl
  rw [value_of_firstWord? hw (by rwa [String.ofList_toList])]

/-- The key of an entry reads as its unit. -/
theorem unit_key (hs : s.Exact es) {e : String × RatioUnit} (he : e ∈ es) :
    s.unit e.1 = .ok e.2.unit :=
  unit_symbol hs.number (hs.spelled e he) (hs.get?_entry he)

/-- The powers that a dimension is written as in base units. -/
def basePowers (base : BaseUnits) (d : Dimension) : List Expression.Power :=
  (d.support Axis.written).map fun axis => ⟨base.symbol axis, d.exponent axis⟩

theorem product_eq (base : BaseUnits) {d : Dimension} (hw : d.Writable) :
    base.product d = .ok (String.ofList ((basePowers base d).flatMap Expression.Power.chars)) := by
  have hf : ∀ axis ∈ d.support Axis.written, base.factorText d axis =
      .ok (base.symbol axis ++ Text.toSuperscript (toString (d.exponent axis))) := by
    intro axis _
    rw [BaseUnits.factorText, superscriptText_ok (hw axis)]
    rfl
  rw [BaseUnits.product, mapM_eq_map hf]
  refine congrArg Except.ok (String.toList_inj.mp ?_)
  rw [String.toList_join, String.toList_ofList, basePowers, List.flatMap_map, List.flatMap_map]
  refine List.flatMap_congr fun axis _ => ?_
  rw [String.toList_append, Expression.toList_toSuperscript]
  rfl

theorem sound_basePowers (hs : s.Exact es) (hb : s.KeepsBase) {d : Dimension} (hw : d.Writable) :
    ∀ p ∈ basePowers s.base d, p.Sound := by
  intro p hp
  obtain ⟨axis, -, rfl⟩ := List.mem_map.mp hp
  obtain ⟨hn, hl⟩ := hs.spelled_of_get? (hb axis)
  exact ⟨hn, hl, hw axis⟩

theorem written_nodup : Axis.written.Nodup := by
  decide

/-- A dimension that is written in base units reads as a unit of that dimension and of factor
one. -/
theorem unit_product (hs : s.Exact es) (hb : s.KeepsBase) {d : Dimension} (hw : d.Writable) :
    s.unit (String.ofList ((basePowers s.base d).flatMap Expression.Power.chars)) =
      .ok (RatioUnit.unit ⟨d, 1⟩) := by
  have ht := Expression.terms_of_reading
    (Expression.Power.reading_powers (sound_basePowers hs hb hw))
  have hn : (d.support Axis.written).Nodup := written_nodup.filter _
  have hl : ∀ axis, s.lookup (symbolKey (s.base.symbol axis)) =
      .ok (RatioUnit.operand ⟨.power axis 1, 1⟩) := fun axis => lookup_symbolKey s (hb axis)
  obtain ⟨e, he, hp⟩ := Expression.product_base (d := d) hl hn ⟨0, 1⟩
  have hde : e = d := by
    refine Dimension.eq_of_exponent_eq fun axis => ?_
    rw [he, Dimension.exponent_zero]
    by_cases hz : d.exponent axis = 0
    · simp [hz]
    · have hm : axis ∈ d.support Axis.written :=
        List.mem_filter.mpr ⟨Axis.mem_written axis, by simpa using hz⟩
      simp [hm]
  unfold unit Expression.unit
  rw [ht, identity_eq hs.number]
  change Expression.product s.lookup _ _ = _
  rw [basePowers, List.map_map]
  rw [hde] at hp
  exact hp

/-- A base symbol does not start with a blank, so that no part of it is lost. -/
theorem head_spelled {symbol : String} (h : Spelled symbol) :
    symbol.toList ≠ [] ∧ ∀ c ∈ symbol.toList.head?, Text.isBlank c = false := by
  obtain ⟨hn, hl⟩ := h
  rw [symbolKey, Text.Canonical.toList_canonical] at hn hl
  cases hs : symbol.toList with
  | nil =>
    rw [hs] at hn
    exact absurd rfl hn
  | cons c cs =>
    refine ⟨by simp, fun d hd => ?_⟩
    obtain rfl := Option.some.inj hd
    cases hb : Text.isBlank c with
    | false => rfl
    | true =>
      obtain ⟨g, hg, hdiv⟩ := Text.Canonical.divides_blank hb
      have hm : g ∈ Text.Canonical.normal symbol.toList := by
        rw [hs, ← List.nil_append (c :: cs), Text.Canonical.normal_divides hdiv]
        simp
      have hgl := hl g hm
      rw [Text.isLetter_of_isBlank hg] at hgl
      contradiction

theorem head_basePowers (hs : s.Exact es) (hb : s.KeepsBase) (d : Dimension) :
    ∀ c ∈ ((basePowers s.base d).flatMap Expression.Power.chars).head?,
      Text.isBlank c = false := by
  unfold basePowers
  cases d.support Axis.written with
  | nil => simp
  | cons axis axes =>
    obtain ⟨hn, hh⟩ := head_spelled (hs.spelled_of_get? (hb axis))
    obtain ⟨c, cs, hc⟩ := List.exists_cons_of_ne_nil hn
    rw [hc] at hh
    intro e he
    simp only [List.map_cons, List.flatMap_cons, Expression.Power.chars, hc, List.cons_append,
      List.head?_cons, Option.mem_def, Option.some.injEq] at he
    exact he ▸ hh c rfl

/-- The factor of the unit that a quantity is displayed in, if there is one in the registry. -/
def displayFactor? (s : UnitSystem) (v : ExactQuantity) : Option Rat :=
  match s.bestUnit v.target.operand with
  | .ok (some (_, ⟨_, .number (.ratio factor)⟩)) => some factor
  | _ => none

/-- Whether the integers in the text of a quantity keep within the limit of digits. -/
def Printable (s : UnitSystem) (v : ExactQuantity) : Prop :=
  match s.displayFactor? v with
  | some factor => WritableRat (v.magnitude * (v.factor / factor))
  | none => WritableRat (v.magnitude * v.factor) ∧ v.dimension.Writable

instance (s : UnitSystem) (v : ExactQuantity) : Decidable (s.Printable v) :=
  match h : s.displayFactor? v with
  | some factor =>
    decidable_of_iff (WritableRat (v.magnitude * (v.factor / factor))) (by rw [Printable, h])
  | none =>
    decidable_of_iff (WritableRat (v.magnitude * v.factor) ∧ v.dimension.Writable)
      (by rw [Printable, h])

/-- In the unit of an entry. -/
theorem round_trip_closest (hs : s.Exact es) {v : ExactQuantity} {e : String × RatioUnit}
    (h : Closest v.target es e) (hp : WritableRat (v.magnitude * (v.factor / e.2.factor))) :
    ∃ (text : String) (w : ExactQuantity), s.render v.quantity = .ok text ∧
      s.value text = .ok w.quantity ∧ w.inBase = v.inBase ∧ s.render w.quantity = .ok text := by
  have hpos := hs.positive e h.mem
  have hne := ne_of_gt hpos
  obtain ⟨number, ht, hq, hf, hn⟩ := ratioText_ok hp
  refine ⟨number ++ " " ++ e.1,
    ⟨v.magnitude * (v.factor / e.2.factor), e.2.dimension, e.2.factor, hpos⟩, ?_, ?_, ?_, ?_⟩
  · rw [render_closest hs h, ht]
    rfl
  · rw [value_with_unit hs.number hq hf hn (hs.catalogues.head_key h.mem), unit_key hs h.mem]
    rfl
  · have hd : e.2.dimension = v.dimension := h.dimension_eq
    simp only [ExactQuantity.inBase, BaseQuantity.mk.injEq]
    refine ⟨hd, ?_⟩
    field_simp
  · have hm : v.magnitude * (v.factor / e.2.factor) * (e.2.factor / e.2.factor) =
        v.magnitude * (v.factor / e.2.factor) := by
      rw [div_self hne, mul_one]
    have hself : Closest (ExactQuantity.target ⟨v.magnitude * (v.factor / e.2.factor),
        e.2.dimension, e.2.factor, hpos⟩) es e := h.self
    rw [render_closest hs hself]
    dsimp only
    rw [hm, ht]
    rfl

/-- In base units. -/
theorem round_trip_inBase (hs : s.Exact es) (hb : s.KeepsBase) {v : ExactQuantity}
    (h : ∀ e ∈ es, e.2.dimension ≠ v.dimension) (hp : WritableRat (v.magnitude * v.factor))
    (hw : v.dimension.Writable) :
    ∃ (text : String) (w : ExactQuantity), s.render v.quantity = .ok text ∧
      s.value text = .ok w.quantity ∧ w.inBase = v.inBase ∧ s.render w.quantity = .ok text := by
  obtain ⟨number, ht, hq, hf, hn⟩ := ratioText_ok hp
  have h1 : (0 : Rat) < 1 := by decide
  have hproduct := product_eq s.base hw
  have hunit := unit_product hs hb hw
  have hhead := head_basePowers hs hb v.dimension
  generalize (basePowers s.base v.dimension).flatMap Expression.Power.chars = suffix at *
  refine ⟨if String.ofList suffix = "" then number else number ++ " " ++ String.ofList suffix,
    ⟨v.magnitude * v.factor, v.dimension, 1, h1⟩, ?_, ?_, ?_, ?_⟩
  · rw [render_inBase hs h, hproduct, ht]
    rfl
  · split
    · rename_i hempty
      rw [value_alone hs.number hq hf hn, ← hempty, hunit]
      rfl
    · rw [value_with_unit hs.number hq hf hn (by rwa [String.toList_ofList]), hunit]
      rfl
  · simp [ExactQuantity.inBase]
  · have hr := render_inBase hs (v := ⟨v.magnitude * v.factor, v.dimension, 1, h1⟩) h
    rw [hr]
    dsimp only
    rw [hproduct, mul_one, ht]
    rfl

/-- The text of a quantity reads back as a quantity of the same dimension and the same magnitude in
base units, of which it is the text again. -/
theorem value_render (hs : s.Assembled) (hb : s.KeepsBase) (v : ExactQuantity)
    (hp : s.Printable v) :
    ∃ (text : String) (w : ExactQuantity), s.render v.quantity = .ok text ∧
      s.value text = .ok w.quantity ∧ w.dimension = v.dimension ∧
      w.quantity.baseMagnitude = v.quantity.baseMagnitude ∧ s.render w.quantity = .ok text := by
  obtain ⟨es, he⟩ := hs.exact
  have hround : ∃ (text : String) (w : ExactQuantity), s.render v.quantity = .ok text ∧
      s.value text = .ok w.quantity ∧ w.inBase = v.inBase ∧ s.render w.quantity = .ok text := by
    have hf := foldl_nearer v.target es
    cases hn : es.foldl (nearer v.target) none with
    | some e =>
      rw [hn] at hf
      rw [Printable, displayFactor?, bestUnit_closest he hf] at hp
      exact round_trip_closest he hf hp
    | none =>
      rw [hn] at hf
      rw [Printable, displayFactor?, bestUnit_none he hf] at hp
      exact round_trip_inBase he hb hf hp.1 hp.2
  obtain ⟨text, w, hr, hv, hw, hr'⟩ := hround
  refine ⟨text, w, hr, hv, congrArg BaseQuantity.dimension hw, ?_, hr'⟩
  rw [w.baseMagnitude_quantity, v.baseMagnitude_quantity, hw]

/-- The base units of the SI and the kilometre. -/
def kilometres : UnitSystem :=
  (withBase .si .ratio).register "km" (RatioUnit.operand ⟨.power .length 1, 1000⟩)

/-- Five quarters of a kilometre. -/
def walk : ExactQuantity :=
  ⟨5 / 4, .power .length 1, 1000, by decide⟩

theorem value_render_walk :
    kilometres.Assembled ∧ kilometres.KeepsBase ∧ kilometres.Printable walk ∧
      ∃ (text : String) (w : ExactQuantity), kilometres.render walk.quantity = .ok text ∧
        kilometres.value text = .ok w.quantity ∧ w.dimension = walk.dimension ∧
        w.quantity.baseMagnitude = walk.quantity.baseMagnitude ∧
        kilometres.render w.quantity = .ok text := by
  have hs : kilometres.Assembled :=
    .register (.withBase fun axis => spelled_si axis (Axis.mem_all axis)) (by decide +kernel)
      (by decide)
  have hb : kilometres.KeepsBase := by
    intro axis
    cases axis <;> rfl
  have hp : kilometres.Printable walk := by
    decide +kernel
  exact ⟨hs, hb, hp, value_render hs hb walk hp⟩

end UnitSystem

end Metrology
