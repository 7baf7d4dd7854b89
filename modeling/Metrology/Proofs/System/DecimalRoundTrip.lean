import Metrology.Proofs.Expression.Outcome
import Metrology.Proofs.Expression.Scanning
import Metrology.Proofs.Number.DecimalText
import Metrology.Proofs.System.Decimals
import Metrology.Proofs.System.Layout

namespace Metrology

open Decimal (Held)

namespace DecimalQuantity

/-- A product that is a number comes with a coefficient and an exponent that can be held. -/
theorem converted_held {v : DecimalQuantity} {u : DecimalUnit} {d : Decimal} {q : Rat}
    (h : v.converted u = .ok d) (hd : d.value? = some q) :
    ∃ s c e, d = .finite s c e ∧ Held Decimal.precision c e := by
  obtain ⟨r, hr, hmul⟩ := bind_eq_ok.mp h
  have hfinite : ∃ p, r.value? = some p := by
    rcases Decimal.div_within v.unit.factor_value u.factor_value u.nonzero with
      ⟨s, c, e, hf⟩ | hf
    · obtain rfl := Except.ok.inj (hr.symm.trans hf)
      exact ⟨_, rfl⟩
    · rw [hr] at hf
      cases hf
  obtain ⟨p, hp⟩ := hfinite
  have hsettled : d.Settled := by
    refine Decimal.mul_settled hp hmul ?_
    rintro s g p rfl
    cases hd
  cases hsettled with
  | finite s hheld => exact ⟨s, _, _, rfl, hheld⟩
  | infinite s => cases hd

end DecimalQuantity

theorem Decimal.Held.fits {c : Nat} {e : Int} (h : Held precision c e) :
    Literal.decimalFits c e = true := by
  have hleast := h.least
  have hmost := h.most
  unfold leastExponent minExponent precision at hleast
  unfold maxExponent at hmost
  unfold Literal.decimalFits Literal.exactLimit
  split
  · rename_i hc
    rw [hc, adjusted_zero] at hmost
    simp only [Bool.and_eq_true, decide_eq_true_eq]
    omega
  · simp only [Bool.and_eq_true, decide_eq_true_eq]
    omega

namespace UnitSystem

variable {s : UnitSystem} {es : List (String × NormalUnit)}

theorem render_best {v : DecimalQuantity} {symbol : String} {u : DecimalUnit} {d : Decimal}
    (hb : s.bestUnit v.unit.operand = .ok (some (symbol, u.unit))) (hd : v.converted u = .ok d) :
    s.render v.quantity = .ok (d.text ++ " " ++ symbol) := by
  obtain ⟨r, hr, hmul⟩ := bind_eq_ok.mp hd
  have hf : v.unit.operand.factor? = .ok (.ofDecimal v.unit.factor) := rfl
  have hratio : Arithmetic.div (Operand.ofDecimal v.unit.factor) u.unit.factor =
      .ok (.ofDecimal r) := by
    change Arithmetic.div (Operand.ofDecimal v.unit.factor) (.ofDecimal u.factor) = _
    rw [div_ofDecimal, hr]
    rfl
  have hproduct : Arithmetic.mul (Operand.ofDecimal v.magnitude) (.ofDecimal r) =
      .ok (.ofDecimal d) := by
    rw [mul_ofDecimal, hmul]
    rfl
  change s.renderIn (.ofDecimal v.magnitude) v.unit.operand = _
  unfold renderIn
  rw [hb, hf]
  simp only [bind, Except.bind, hratio, hproduct]
  rfl

/-- A decimal in front of a unit is read as it is. -/
theorem value_of_decimal (hn : s.number = .decimal) (negative : Bool) {c : Nat} {e : Int}
    (hf : Literal.decimalFits c e = true) {rest : String}
    (hr : ∀ c ∈ rest.toList.head?, Text.isBlank c = false) :
    s.value (Decimal.text (.finite negative c e) ++ " " ++ rest) =
      (s.unit rest).map fun u => ⟨.ofDecimal (.finite negative c e), u⟩ := by
  obtain ⟨hkept, hread⟩ := Literal.decimal?_text negative hf
  generalize Decimal.text (.finite negative c e) = text at hkept hread ⊢
  have hne : text.toList ≠ [] := by
    intro h
    rw [String.toList_eq_nil_iff.mp h] at hread
    cases hread
  have hliteral : s.number.read text = .ok (.decimal (.finite negative c e)) := by
    rw [hn, NumberKind.read, hread]
  exact value_spaced (fun c hc => (hkept c hc).1) hne hr hliteral

/-- The first power of a unit's factor, and its product with one, are of its value. -/
theorem timesPower_normal (u : NormalUnit) :
    ∃ f : Decimal, Expression.timesPower (.decimal (.finite false 1 0)) (.decimal u.factor, 1) =
      .ok (.decimal f) ∧ f.value? = some u.value := by
  obtain ⟨p, hpow, hp⟩ := u.normal.pow_one u.factor_value u.nonzero
  have hone : (Decimal.finite false 1 0).value? = some 1 :=
    congrArg some (by simp [Decimal.signed, scaled])
  have hrounds := Decimal.mul_rounds hone hp
  rw [one_mul] at hrounds
  obtain ⟨f, hmul, hf⟩ := u.normal.kept u.factor_value hrounds
  have hn : Number.pow (.decimal u.factor) 1 = .ok (.decimal p) :=
    congrArg (Except.map Number.decimal) hpow
  refine ⟨f, ?_, hf⟩
  unfold Expression.timesPower
  rw [hn]
  exact congrArg (Except.map Number.decimal) hmul

/-- The key of an entry reads as a unit that is equal to that of the entry. -/
theorem ListsDecimals.unit_key (hs : s.ListsDecimals es) {e : String × NormalUnit} (he : e ∈ es) :
    ∃ u : DecimalUnit, s.unit e.1 = .ok u.unit ∧ u.dimension = e.2.dimension ∧
      u.value = e.2.value := by
  obtain ⟨hn, hl⟩ := hs.2.word_key he
  obtain ⟨f, htimes, hf⟩ := timesPower_normal e.2
  have hterms := Expression.terms_of_reading (Expression.reading_word (hs.2.keyed e he) hn hl)
  have hlookup : s.lookup e.1 = .ok (.unit ⟨e.2.dimension, .number (.decimal e.2.factor)⟩) := by
    rw [lookup, hs.2.get?_entry he]
    rfl
  have hidentity : s.identity = ⟨0, .number (.decimal (.finite false 1 0))⟩ := by
    rw [identity, hs.1]
    rfl
  have hd : 0 + e.2.dimension.scale 1 = e.2.dimension :=
    Dimension.eq_of_exponent_eq fun axis => by simp
  refine ⟨⟨e.2.dimension, f, e.2.value, hf, e.2.nonzero⟩, ?_, rfl, rfl⟩
  unfold unit Expression.unit
  rw [hterms, hidentity]
  change Expression.product s.lookup _ [⟨e.1, 1, false⟩] = _
  rw [Expression.product_cons_number hlookup]
  change (Expression.timesPower _ (.decimal e.2.factor, 1) >>= fun b =>
    Expression.product s.lookup ⟨0 + e.2.dimension.scale 1, .number b⟩ []) = _
  rw [htimes, hd]
  rfl

/-- A normal decimal in a registered unit is displayed as an equal decimal in an equal unit, and that
text is read as such. -/
theorem ListsDecimals.round_trip (hs : s.ListsDecimals es) {key : String} {target : NormalUnit}
    (ht : (key, target) ∈ es) {v : DecimalQuantity} (hv : v.unit = target.toDecimalUnit)
    (hm : v.magnitude.Normal) :
    ∃ (text : String) (w : DecimalQuantity), s.render v.quantity = .ok text ∧
      s.value text = .ok w.quantity ∧ w.amount = v.amount ∧
      w.unit.dimension = v.unit.dimension ∧ w.unit.value = v.unit.value := by
  obtain ⟨e, he, hbest, hdimension, hvalue⟩ := bestUnit_registered hs ht
  have hequal : v.unit.value = e.2.value := by rw [hv, hvalue]
  obtain ⟨d, hd, hamount⟩ := DecimalQuantity.converted_of_value hequal hm
  obtain ⟨negative, c, k, rfl, hheld⟩ := DecimalQuantity.converted_held hd hamount
  obtain ⟨u, hu, hud, huv⟩ := hs.unit_key he
  have hshown : s.bestUnit v.unit.operand = .ok (some (e.1, e.2.unit)) := by
    rw [hv]
    exact hbest
  refine ⟨_, ⟨_, u, v.amount, hamount⟩, render_best hshown hd, ?_, rfl, ?_, ?_⟩
  · rw [value_of_decimal hs.1 negative hheld.fits (hs.2.head_key he), hu]
    rfl
  · rw [hud, hdimension, hv]
  · rw [huv, hequal]

/-- So much of a registered unit has a text, which reads back as just as much of a unit of the same
dimension and an equal factor. -/
theorem value_render_decimal (hs : s.DecimalAssembled) {symbol : String}
    (hc : s.contains symbol = true) {m : Decimal} (hm : m.Normal) :
    ∃ (u : DecimalUnit) (text : String) (w : DecimalQuantity), s.lookup symbol = .ok u.operand ∧
      s.render ⟨.ofDecimal m, u.unit⟩ = .ok text ∧ s.value text = .ok w.quantity ∧
      m.value? = some w.amount ∧ w.unit.dimension = u.dimension ∧ w.unit.value = u.value := by
  obtain ⟨es, he⟩ := hs.lists
  obtain ⟨entry, hentry⟩ := Option.isSome_iff_exists.mp hc
  obtain ⟨⟨key, target⟩, hmem, -, rfl⟩ := he.2.mem_of_get? hentry
  have hlookup : s.lookup symbol = .ok target.operand := by
    rw [lookup, hentry]
  obtain ⟨q, hq⟩ := hm.exists_value
  let v : DecimalQuantity := ⟨m, target.toDecimalUnit, q, hq⟩
  obtain ⟨text, w, hrender, hread, hamount, hdimension, hfactor⟩ :=
    he.round_trip hmem (v := v) rfl hm
  exact ⟨target.toDecimalUnit, text, w, hlookup, hrender, hread, hamount ▸ hq, hdimension,
    hfactor⟩

/-- A league, with more zeros than its factor takes. -/
def league : NormalUnit :=
  .ofFinite (.power .length 1) (c := 5556000) (e := -3) (by decide) (by decide) (by decide)

/-- Two and a half leagues back. -/
theorem value_render_decimal_league : ∃ (s : UnitSystem) (text : String) (w : DecimalQuantity),
    si .decimal = .ok s ∧
      (s.register "lea" league.operand).render ⟨.ofDecimal (.finite true 250 (-2)), league.unit⟩ =
        .ok text ∧
      (s.register "lea" league.operand).value text = .ok w.quantity ∧
      w.amount = -5 / 2 ∧ w.unit.dimension = .power .length 1 ∧ w.unit.value = 5556 := by
  obtain ⟨s, hs, -⟩ := listsDecimals_si
  have hspelled : Spelled "lea" := by decide +kernel
  have hbound : (s.register "lea" league.operand).get? "lea" = some league.operand := by
    rw [get?_register, if_pos rfl]
  have hknown : (s.register "lea" league.operand).contains "lea" = true := by
    rw [contains, hbound]
    rfl
  have hnormal : (Decimal.finite true 250 (-2)).Normal :=
    ⟨⟨250, 0, rfl, by decide⟩, .inr (by decide)⟩
  obtain ⟨u, text, w, hlookup, hrender, hread, hamount, hdimension, hvalue⟩ :=
    value_render_decimal (.register (.si hs) hspelled league) hknown hnormal
  have hunit : u.unit = league.unit := by
    rw [lookup, hbound] at hlookup
    exact (Operand.unit.inj (Except.ok.inj hlookup)).symm
  have hfactor : u.factor = league.factor := by
    have h := congrArg MeasureUnit.factor hunit
    exact Number.decimal.inj (Operand.number.inj h)
  have huvalue : u.value = league.value := by
    have h := u.factor_value
    rw [hfactor, league.factor_value] at h
    exact (Option.some.inj h).symm
  refine ⟨s, text, w, hs, ?_, hread, ?_, ?_, ?_⟩
  · rw [← hunit]
    exact hrender
  · rw [← Option.some.inj hamount]
    norm_num [Decimal.signed, scaled]
  · rw [hdimension]
    exact congrArg MeasureUnit.dimension hunit
  · rw [hvalue, huvalue]
    norm_num [league, NormalUnit.ofFinite, scaled]

end UnitSystem

end Metrology
