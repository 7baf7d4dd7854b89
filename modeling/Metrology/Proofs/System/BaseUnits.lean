import Metrology.Proofs.System.RoundTrip

namespace Metrology

namespace BaseUnits

/-- Whether each base symbol is a word of ASCII letters, and no two are the same. -/
structure Plain (base : BaseUnits) : Prop where
  nonempty : ∀ axis, base.symbol axis ≠ ""
  letters : ∀ axis, ∀ c ∈ (base.symbol axis).toList, c.isAlpha = true
  distinct : Function.Injective base.symbol

end BaseUnits

/-- A symbol of ASCII letters is its own key. -/
theorem symbolKey_of_isAlpha {symbol : String} (h : ∀ c ∈ symbol.toList, c.isAlpha = true) :
    symbolKey symbol = symbol := by
  refine String.toList_inj.mp ?_
  rw [symbolKey, Text.Canonical.toList_canonical]
  refine Text.Canonical.normal_low fun c hc => ?_
  rcases Text.isAlpha_range (h c hc) with ⟨-, hu⟩ | ⟨-, hu⟩ <;> omega

namespace BaseUnits

variable {base : BaseUnits}

theorem Plain.symbolKey_eq (h : base.Plain) (axis : Axis) :
    symbolKey (base.symbol axis) = base.symbol axis :=
  symbolKey_of_isAlpha (h.letters axis)

theorem Plain.spelled (h : base.Plain) (axis : Axis) : Spelled (base.symbol axis) := by
  unfold Spelled
  rw [h.symbolKey_eq]
  exact ⟨mt String.toList_eq_nil_iff.mp (h.nonempty axis),
    fun c hc => Text.isLetter_of_isAlpha (h.letters axis c hc)⟩

end BaseUnits

namespace UnitSystem

open Registration

/-- The last call for a base symbol is the one that binds it to its base unit, if the keys of the
base symbols are distinct. -/
theorem latest?_baseCalls {base : BaseUnits}
    (h : Function.Injective fun axis => symbolKey (base.symbol axis)) (number : NumberKind)
    (axis : Axis) :
    latest? (symbolKey (base.symbol axis)) (baseCalls base number) =
      some (.unit (.base (.power axis 1) number)) := by
  have hkeys : (baseCalls base number).map (·.key) =
      Axis.all.map fun axis => symbolKey (base.symbol axis) := by
    rw [baseCalls, BaseUnits.items, List.map_map, List.map_map]
    rfl
  have hn : ((baseCalls base number).map (·.key)).Nodup := by
    rw [hkeys]
    exact List.Nodup.map h (by decide)
  have hc : ⟨base.symbol axis, .unit (.base (.power axis 1) number)⟩ ∈ baseCalls base number := by
    rw [baseCalls, BaseUnits.items, List.map_map]
    exact List.mem_map.mpr ⟨axis, Axis.mem_all axis, rfl⟩
  have hl := latest?_of_mem hn hc
  exact hl

/-- A system is constructed with its base symbols bound to base units. -/
theorem keepsBase_withBase {base : BaseUnits}
    (h : Function.Injective fun axis => symbolKey (base.symbol axis)) :
    (withBase base .ratio).KeepsBase := by
  intro axis
  have hs : (withBase base .ratio).base = base := rfl
  have hr := records_registerAll base .ratio (baseCalls base .ratio)
  rw [hs, withBase_eq, get?, hr.found, latest?_baseCalls h]
  rfl

variable {s : UnitSystem} {es : List (String × RatioUnit)}

/-- The scan of a product of base units, one term for each of its powers. -/
theorem scan_product (hs : s.Exact es) (hb : s.KeepsBase) {d : Dimension} (hw : d.Writable) :
    Expression.scan (String.ofList ((basePowers s.base d).flatMap Expression.Power.chars)) =
      ⟨(d.support Axis.written).map fun axis =>
        ⟨symbolKey (s.base.symbol axis), d.exponent axis, false⟩, none⟩ := by
  rw [Expression.scan_eq_iff_reading]
  have hr := Expression.Power.reading_powers (sound_basePowers hs hb hw)
  rwa [basePowers, List.map_map] at hr

/-- The text of a dimension in base units is scanned to the powers of the base symbols, mass first,
and is read as the unit of that dimension and of factor one. -/
theorem unit_product_withBase {base : BaseUnits} (hbase : base.Plain) {d : Dimension}
    (hw : d.Writable) :
    ∃ text, base.product d = .ok text ∧
      Expression.scan text = ⟨(d.support Axis.written).map fun axis =>
        ⟨base.symbol axis, d.exponent axis, false⟩, none⟩ ∧
      (withBase base .ratio).unit text = .ok (RatioUnit.unit ⟨d, 1⟩) := by
  have hk : (fun axis => symbolKey (base.symbol axis)) = base.symbol :=
    funext hbase.symbolKey_eq
  have hs : (withBase base .ratio).base = base := rfl
  obtain ⟨es, he⟩ := exact_withBase hbase.spelled
  have hb : (withBase base .ratio).KeepsBase := by
    refine keepsBase_withBase ?_
    rw [hk]
    exact hbase.distinct
  have hscan := scan_product he hb hw
  have hunit := unit_product he hb hw
  rw [hs] at hscan hunit
  simp only [hbase.symbolKey_eq] at hscan
  exact ⟨_, product_eq base hw, hscan, hunit⟩

/-- The unit of force, as a dimension of the SI. -/
theorem unit_product_withBase_force : BaseUnits.si.Plain ∧ Physics.force.Writable ∧
    ∃ text, BaseUnits.si.product Physics.force = .ok text ∧
      Expression.scan text =
        ⟨[⟨"kg", 1, false⟩, ⟨"m", 1, false⟩, ⟨"s", -2, false⟩], none⟩ ∧
      (withBase .si .ratio).unit text = .ok (RatioUnit.unit ⟨Physics.force, 1⟩) := by
  have hbase : BaseUnits.si.Plain := by
    refine ⟨?_, ?_, ?_⟩
    · intro axis
      cases axis <;> decide
    · intro axis
      refine List.all_eq_true.mp ?_
      cases axis <;> decide
    · intro a b
      cases a <;> cases b <;> decide
  have hw : Physics.force.Writable := by decide +kernel
  have hterms : ((Physics.force.support Axis.written).map fun axis =>
      (⟨BaseUnits.si.symbol axis, Physics.force.exponent axis, false⟩ : Term)) =
        [⟨"kg", 1, false⟩, ⟨"m", 1, false⟩, ⟨"s", -2, false⟩] := by
    decide +kernel
  obtain ⟨text, hp, hscan, hu⟩ := unit_product_withBase hbase hw
  rw [hterms] at hscan
  exact ⟨hbase, hw, text, hp, hscan, hu⟩

end UnitSystem

end Metrology
