import Mathlib.Data.Set.List
import Metrology.Proofs.Expression.Product
import Metrology.Proofs.Number.RatioText
import Metrology.Proofs.System.Display
import Metrology.Proofs.System.Meaning

namespace Metrology

namespace UnitSystem

variable {s other : UnitSystem}

theorem unit_congr (hn : s.number = other.number) {text : String}
    (hl : ∀ t ∈ (Expression.scan text).terms, s.lookup t.symbol = other.lookup t.symbol) :
    s.unit text = other.unit text := by
  have hi : s.identity = other.identity := by rw [identity, identity, hn]
  unfold unit Expression.unit Expression.terms
  rw [hi]
  generalize Expression.scan text = outcome at hl
  obtain ⟨ts, failure?⟩ := outcome
  cases failure? with
  | some failure => rfl
  | none => exact Expression.product_congr hl other.identity

/-- Of the registry, rendering only asks what unit to display in. -/
theorem render_congr (hb : s.base = other.base) {v : Quantity Operand}
    (h : s.bestUnit (.unit v.unit) = other.bestUnit (.unit v.unit)) :
    s.render v = other.render v := by
  unfold render renderIn renderInBase
  rw [hb, h]

/-- The entries of such a system are units with fractions for factors. -/
theorem Proper.exists_lists (h : s.Proper) : ∃ es, s.Lists es := by
  have hr : s.registry.entries ∈ Set.range (List.map fun e : String × RatioUnit =>
      (e.1, e.2.operand)) := by
    rw [Set.range_list_map]
    intro e he
    obtain ⟨u, hu⟩ := h.entries e he
    exact ⟨(e.1, u.toRatioUnit), Prod.ext rfl hu.symm⟩
  obtain ⟨es, hes⟩ := hr
  exact ⟨es, hes.symm⟩

/-- Whether a unit is registered, under whatever key. -/
def Registers (s : UnitSystem) (w : RatioUnit) : Prop :=
  ∃ key, (key, w.operand) ∈ s.registry.entries

/-- Whether a unit has the dimension of another one and is closer to it than every registered unit
of that dimension, if there is any. -/
def TakesOver (s : UnitSystem) (u target : RatioUnit) : Prop :=
  u.dimension = target.dimension ∧ ∀ w, s.Registers w → w.dimension = target.dimension →
    u.distance target < w.distance target

/-- What becomes of a fraction in front of a symbol: a text, unless the fraction is too long for
one. -/
structure ShownIn (outcome : Except Failure String) (q : Rat) (symbol : String) : Prop where
  text : WritableRat q →
    ∃ number, ratioText q = .ok number ∧ outcome = .ok (number ++ " " ++ symbol)
  tooLong : ¬WritableRat q → outcome = .error .badValue

/-- All that changes in a system by the registration of one more unit. -/
structure Extends (s : UnitSystem) (symbol : String) (u : RatioUnit) : Prop where
  unit_eq : ∀ text,
    (∀ t ∈ (Expression.scan text).terms, symbolKey t.symbol ≠ symbolKey symbol) →
    (s.register symbol u.operand).unit text = s.unit text
  render_eq : ∀ (magnitude : Rat) (v : ProperUnit), ¬s.TakesOver u v.toRatioUnit →
    (s.register symbol u.operand).render ⟨.number (.ratio magnitude), v.unit⟩ =
      s.render ⟨.number (.ratio magnitude), v.unit⟩
  render_new : ∀ (magnitude : Rat) (v : ProperUnit), s.TakesOver u v.toRatioUnit →
    ShownIn ((s.register symbol u.operand).render ⟨.number (.ratio magnitude), v.unit⟩)
      (magnitude * (v.factor / u.factor)) (symbolKey symbol)

theorem unit_register {symbol : String} (entry : Operand) {text : String}
    (h : ∀ t ∈ (Expression.scan text).terms, symbolKey t.symbol ≠ symbolKey symbol) :
    (s.register symbol entry).unit text = s.unit text := by
  have hn : (s.register symbol entry).number = s.number := rfl
  refine unit_congr hn fun t ht => ?_
  have hg : (s.register symbol entry).get? t.symbol = s.get? t.symbol := by
    rw [get?_register, if_neg (h t ht)]
  rw [lookup, lookup, hg]

variable {es : List (String × RatioUnit)}

theorem Lists.registers_iff (hs : s.Lists es) {w : RatioUnit} :
    s.Registers w ↔ ∃ e ∈ es, e.2 = w := by
  constructor
  · rintro ⟨key, hm⟩
    exact ⟨(key, w), hs.mem_iff.mp hm, rfl⟩
  · rintro ⟨e, hm, rfl⟩
    exact ⟨e.1, hs.mem_iff.mpr hm⟩

theorem Lists.takesOver_iff (hs : s.Lists es) {u target : RatioUnit} :
    s.TakesOver u target ↔ u.dimension = target.dimension ∧
      ∀ e ∈ es, e.2.dimension = target.dimension → u.distance target < e.2.distance target := by
  simp only [TakesOver, hs.registers_iff]
  refine and_congr_right fun _ => ⟨fun h e he => h e.2 ⟨e, he, rfl⟩, ?_⟩
  rintro h _ ⟨e, he, rfl⟩
  exact h e he

theorem Lists.concat (hs : s.Lists es) {symbol : String} (hn : s.contains symbol = false)
    (u : RatioUnit) : (s.register symbol u.operand).Lists (es ++ [(symbolKey symbol, u)]) := by
  have hfresh : symbolKey symbol ∉ es.map (·.1) := by
    intro hm
    obtain ⟨e, he, hk⟩ := List.mem_map.mp hm
    have hg : s.get? symbol = none :=
      Option.not_isSome_iff_eq_none.mp (by simpa [contains] using hn)
    have hne := List.lookup_eq_none_iff.mp hg (e.1, e.2.operand) (hs.mem_iff.mpr he)
    simp [hk] at hne
  have hl := hs.register symbol u
  rwa [Registry.bind_of_notMem hfresh] at hl

/-- A unit that does not take over is displayed in no quantity: either there is a closest unit in
front of it, or it is of another dimension than the quantity. -/
theorem Lists.bestUnit_concat (hs : s.Lists es) {key : String} {u target : RatioUnit}
    (hl : other.Lists (es ++ [(key, u)])) (h : ¬s.TakesOver u target) :
    other.bestUnit target.operand = s.bestUnit target.operand := by
  rw [hs.takesOver_iff] at h
  have hf := foldl_nearer target es
  cases hb : es.foldl (nearer target) none with
  | some e =>
    rw [hb] at hf
    have hle : u.dimension = target.dimension → e.2.distance target ≤ u.distance target := by
      intro hd
      by_contra hlt
      exact h ⟨hd, fun c hc hcd => lt_of_lt_of_le (not_le.mp hlt) (hf.le hc hcd)⟩
    rw [hl.bestUnit_closest (hf.concat hle), hs.bestUnit_closest hf]
  | none =>
    rw [hb] at hf
    have hd : u.dimension ≠ target.dimension :=
      fun hd => h ⟨hd, fun c hc hcd => absurd hcd (hf c hc)⟩
    have hnone : ∀ e ∈ es ++ [(key, u)], e.2.dimension ≠ target.dimension := by
      intro e he
      rcases List.mem_append.mp he with hm | hm
      · exact hf e hm
      · rwa [List.mem_singleton.mp hm]
    rw [hl.bestUnit_none hnone, hs.bestUnit_none hf]

/-- A unit that takes over is closer than all in front of it. -/
theorem Lists.render_concat (hs : s.Lists es) {key : String} {u target : RatioUnit}
    (hl : other.Lists (es ++ [(key, u)])) (hf : u.factor ≠ 0) (h : s.TakesOver u target)
    (magnitude : Rat) :
    other.render ⟨.number (.ratio magnitude), target.unit⟩ =
      (ratioText (magnitude * (target.factor / u.factor))).map (· ++ " " ++ key) := by
  obtain ⟨hd, hlt⟩ := hs.takesOver_iff.mp h
  have hc : Closest target (es ++ [(key, u)]) (key, u) := ⟨es, [], rfl, hd, hlt, by simp⟩
  exact hl.render_closest hc hf magnitude

theorem shownIn_ratioText (q : Rat) (symbol : String) :
    ShownIn ((ratioText q).map (· ++ " " ++ symbol)) q symbol where
  text h := by
    obtain ⟨number, hr, -⟩ := ratioText_ok h
    exact ⟨number, hr, by rw [hr]; rfl⟩
  tooLong h := by
    rw [ratioText_error h]
    rfl

/-- One more unit changes neither what other symbols stand for nor the text of any quantity to whose
unit it is not closer than all the others. -/
theorem extends_register (hs : s.Proper) {symbol : String} (hn : s.contains symbol = false)
    (u : ProperUnit) : s.Extends symbol u.toRatioUnit := by
  obtain ⟨es, he⟩ := hs.exists_lists
  have hl := he.concat hn u.toRatioUnit
  refine ⟨fun text h => unit_register _ h, fun magnitude v h => ?_, fun magnitude v h => ?_⟩
  · have hb : (s.register symbol u.operand).base = s.base := rfl
    have hbest : (s.register symbol u.operand).bestUnit v.operand = s.bestUnit v.operand :=
      he.bestUnit_concat hl h
    exact render_congr hb hbest
  · rw [he.render_concat hl u.factor_ne_zero h magnitude]
    exact shownIn_ratioText _ _

def kilometre : ProperUnit :=
  ⟨⟨.power .length 1, 1000⟩, by decide⟩

def furlong : ProperUnit :=
  ⟨⟨.power .length 1, 201168 / 1000⟩, by decide +kernel⟩

def mile : ProperUnit :=
  ⟨⟨.power .length 1, 1609344 / 1000⟩, by decide +kernel⟩

def compassUnits : List (String × RatioUnit) :=
  BaseUnits.si.items.map (fun item => (item.1, ⟨item.2, 1⟩)) ++ [("west", west.toRatioUnit)]

theorem lists_compass : compass.Lists compassUnits :=
  rfl

/-- A furlong is closer to a metre than to a kilometre, and a mile is not. -/
theorem extends_register_kilometre : compass.Proper ∧ compass.contains "km" = false ∧
    (compass.register "km" kilometre.operand).unit "m west" = compass.unit "m west" ∧
    (compass.register "km" kilometre.operand).render ⟨.number (.ratio 5), furlong.unit⟩ =
      compass.render ⟨.number (.ratio 5), furlong.unit⟩ ∧
    ∃ number, ratioText (5 * (mile.factor / kilometre.factor)) = .ok number ∧
      (compass.register "km" kilometre.operand).render ⟨.number (.ratio 5), mile.unit⟩ =
        .ok (number ++ " " ++ symbolKey "km") := by
  have hn : compass.contains "km" = false := by decide +kernel
  have h := extends_register proper_compass hn kilometre
  have hfurlong : ¬compass.TakesOver kilometre.toRatioUnit furlong.toRatioUnit := by
    rw [lists_compass.takesOver_iff]
    decide +kernel
  have hmile : compass.TakesOver kilometre.toRatioUnit mile.toRatioUnit := by
    rw [lists_compass.takesOver_iff]
    decide +kernel
  exact ⟨proper_compass, hn, h.unit_eq "m west" (by decide +kernel),
    h.render_eq 5 furlong hfurlong, (h.render_new 5 mile hmile).text (by decide +kernel)⟩

/-- A system over fractions without any units. -/
def bare : UnitSystem :=
  ⟨.si, .ratio, {}⟩

def metre : ProperUnit :=
  ⟨⟨.power .length 1, 1⟩, by decide⟩

/-- A metre over a power of ten. -/
def speck (n : Nat) : ProperUnit :=
  ⟨⟨.power .length 1, 1 / (pow10 n : Rat)⟩,
    one_div_ne_zero (Nat.cast_ne_zero.mpr (Nat.ne_of_gt (pow10_pos n)))⟩

theorem takesOver_speck (n : Nat) :
    bare.TakesOver (speck n).toRatioUnit metre.toRatioUnit := by
  have hs : bare.Lists [] := rfl
  exact hs.takesOver_iff.mpr ⟨rfl, nofun⟩

theorem render_speck {n : Nat} (h : Literal.digitLimit ≤ n + 1) :
    (bare.register "x" (speck n).operand).render ⟨.number (.ratio 10), metre.unit⟩ =
      .error .badValue := by
  have hs : bare.Lists [] := rfl
  have hn : bare.contains "x" = false := rfl
  have hq : 10 * (metre.factor / (speck n).factor) = (pow10 (n + 1) : Rat) := by
    rw [metre, speck, pow10_succ]
    push_cast
    rw [one_div_one_div, mul_comm]
  rw [hs.render_concat (hs.concat hn _) (speck n).factor_ne_zero (takesOver_speck n), hq,
    ratioText_error (not_writableRat_pow10 h)]
  rfl

/-- Ten metres have no text where the only unit is such that the number of them has one digit too
many. -/
theorem render_speck_long : bare.Proper ∧ bare.contains "x" = false ∧
    bare.TakesOver (speck 4299).toRatioUnit metre.toRatioUnit ∧
    ∀ text, (bare.register "x" (speck 4299).operand).render
      ⟨.number (.ratio 10), metre.unit⟩ ≠ .ok text := by
  refine ⟨⟨rfl, nofun⟩, rfl, takesOver_speck 4299, fun text => ?_⟩
  rw [render_speck (by decide)]
  nofun

end UnitSystem

end Metrology
