import Metrology.Proofs.System.Assembly
import Metrology.Proofs.System.Registrations

namespace Metrology

theorem RatioUnit.operand_injective : Function.Injective operand := by
  rintro ⟨d, q⟩ ⟨e, r⟩ h
  simpa [operand, unit] using h

namespace UnitSystem

/-- Whether the entries of a system are some units with fractions for factors. -/
def Lists (s : UnitSystem) (es : List (String × RatioUnit)) : Prop :=
  s.registry.entries = es.map fun e => (e.1, e.2.operand)

variable {s : UnitSystem} {es : List (String × RatioUnit)}

theorem Lists.bestUnit_eq (hs : s.Lists es) (target : RatioUnit) :
    s.bestUnit target.operand =
      .ok ((es.foldl (nearer target) none).map fun b => (b.1, b.2.unit)) := by
  have hf := foldlM_closer target none es
  rw [Option.map_none, ← hs] at hf
  rw [bestUnit, hf]
  cases es.foldl (nearer target) none <;> rfl

theorem Lists.bestUnit_closest (hs : s.Lists es) {target : RatioUnit} {e : String × RatioUnit}
    (h : Closest target es e) : s.bestUnit target.operand = .ok (some (e.1, e.2.unit)) := by
  have hf := foldl_nearer target es
  rw [hs.bestUnit_eq]
  cases hb : es.foldl (nearer target) none with
  | none =>
    rw [hb] at hf
    exact absurd h.dimension_eq (hf e h.mem)
  | some b =>
    rw [hb] at hf
    rw [Closest.unique hf h]
    rfl

theorem Lists.bestUnit_none (hs : s.Lists es) {target : RatioUnit}
    (h : ∀ e ∈ es, e.2.dimension ≠ target.dimension) : s.bestUnit target.operand = .ok none := by
  have hf := foldl_nearer target es
  rw [hs.bestUnit_eq]
  cases hb : es.foldl (nearer target) none with
  | none => rfl
  | some b =>
    rw [hb] at hf
    exact absurd hf.dimension_eq (h b hf.mem)

theorem Lists.render_closest (hs : s.Lists es) {target : RatioUnit} {e : String × RatioUnit}
    (h : Closest target es e) (hne : e.2.factor ≠ 0) (magnitude : Rat) :
    s.render ⟨.number (.ratio magnitude), target.unit⟩ =
      (ratioText (magnitude * (target.factor / e.2.factor))).map (· ++ " " ++ e.1) := by
  have hf : (Operand.unit target.unit).factor? = .ok target.unit.factor := rfl
  have hd : Arithmetic.div target.unit.factor e.2.unit.factor =
      .ok (Operand.number (.ratio (target.factor / e.2.factor))) :=
    congrArg (Except.map Operand.number) (Number.div_ratio hne)
  have hm : Arithmetic.mul (Operand.number (.ratio magnitude))
      (.number (.ratio (target.factor / e.2.factor))) =
      .ok (Operand.number (.ratio (magnitude * (target.factor / e.2.factor)))) := rfl
  have hb : s.bestUnit (.unit target.unit) = .ok (some (e.1, e.2.unit)) := hs.bestUnit_closest h
  simp only [render, renderIn, hb, hf, hd, hm, bind, Except.bind, Operand.displayed,
    Number.displayed]
  cases ratioText (magnitude * (target.factor / e.2.factor)) <;> rfl

theorem Lists.render_inBase (hs : s.Lists es) {target : RatioUnit}
    (h : ∀ e ∈ es, e.2.dimension ≠ target.dimension) (magnitude : Rat) :
    s.render ⟨.number (.ratio magnitude), target.unit⟩ = (do
      let suffix ← s.base.product target.dimension
      let number ← ratioText (magnitude * target.factor)
      return if suffix = "" then number else number ++ " " ++ suffix) := by
  have hf : (Operand.unit target.unit).factor? = .ok target.unit.factor := rfl
  have hd : (Operand.unit target.unit).dimension? = .ok target.dimension := rfl
  have hm : Arithmetic.mul (Operand.number (.ratio magnitude)) target.unit.factor =
      .ok (Operand.number (.ratio (magnitude * target.factor))) := rfl
  have hb : s.bestUnit (.unit target.unit) = .ok none := hs.bestUnit_none h
  simp only [render, renderIn, renderInBase, hb, hf, hd, hm, bind, Except.bind, Operand.displayed,
    Number.displayed]

theorem Lists.mem_iff (hs : s.Lists es) {key : String} {u : RatioUnit} :
    (key, u.operand) ∈ s.registry.entries ↔ (key, u) ∈ es := by
  rw [hs, List.mem_map]
  constructor
  · rintro ⟨⟨k, w⟩, hm, he⟩
    obtain ⟨hk, hw⟩ := Prod.mk.inj he
    obtain rfl : k = key := hk
    obtain rfl := RatioUnit.operand_injective hw
    exact hm
  · intro hm
    exact ⟨(key, u), hm, rfl⟩

theorem Lists.register (hs : s.Lists es) (symbol : String) (u : RatioUnit) :
    (s.register symbol u.operand).Lists (Registry.bind (symbolKey symbol) u es) := by
  change Registry.bind _ _ s.registry.entries = _
  rw [hs, bind_map RatioUnit.operand]

open Registration

/-- Whether some calls bind a key to a unit in the end. -/
def Binds (calls : List Registration) (key : String) (u : RatioUnit) : Prop :=
  latest? key calls = some u.operand

/-- Whether the first call for a key comes before the first call for another one. -/
def Precedes (calls : List Registration) (a b : String) : Prop :=
  (calls.map (·.key)).idxOf a < (calls.map (·.key)).idxOf b

/-- Whether the unit of a key is the first of the registered units that are closest to a target. -/
structure FirstClosest (calls : List Registration) (target : RatioUnit) (key : String)
    (u : RatioUnit) : Prop where
  bound : Binds calls key u
  dimension_eq : u.dimension = target.dimension
  le : ∀ k w, Binds calls k w → w.dimension = target.dimension →
    u.distance target ≤ w.distance target
  lt : ∀ k w, Binds calls k w → w.dimension = target.dimension → Precedes calls k key →
    u.distance target < w.distance target

/-- Whether a system that some calls have led to chooses by them what to display a unit in. -/
structure Chooses (s : UnitSystem) (calls : List Registration) (target : RatioUnit) : Prop where
  none_iff : s.bestUnit target.operand = .ok none ↔
    ∀ key u, Binds calls key u → u.dimension ≠ target.dimension
  some_of_binds : (∃ key u, Binds calls key u ∧ u.dimension = target.dimension) →
    ∃ key u, s.bestUnit target.operand = .ok (some (key, u.unit)) ∧
      (key, u.operand) ∈ s.registry.entries ∧ FirstClosest calls target key u ∧
      s.bestUnit u.operand = .ok (some (key, u.unit))

variable {calls : List Registration}

theorem Lists.binds_iff (hs : s.Lists es) (hr : s.registry.Records calls) {key : String}
    {u : RatioUnit} : Binds calls key u ↔ (key, u) ∈ es := by
  rw [Binds, ← hr.found, ← hs.mem_iff]
  exact ⟨Registry.mem_of_find?, Registry.find?_of_mem hr.distinct⟩

theorem Lists.keys_eq (hs : s.Lists es) : s.registry.keys = es.map (·.1) := by
  rw [Registry.keys, hs, List.map_map]
  rfl

/-- Names without repetition are in the order in which they first come. -/
theorem eraseDups_eq_append {names before after : List String} {name : String}
    (h : names.eraseDups = before ++ name :: after) :
    ∃ front back, names = front ++ name :: back ∧ name ∉ front ∧ front.eraseDups = before := by
  induction names using List.reverseRecOn generalizing after with
  | nil => simp at h
  | append_singleton names last ih =>
    have hearlier {rest : List String} (hs : names.eraseDups = before ++ name :: rest) :
        ∃ front back, names ++ [last] = front ++ name :: back ∧ name ∉ front ∧
          front.eraseDups = before := by
      obtain ⟨front, back, rfl, hn, hf⟩ := ih hs
      exact ⟨front, back ++ [last], by simp, hn, hf⟩
    rw [Registry.eraseDups_concat] at h
    split at h
    · exact hearlier h
    · rename_i hl
      rcases List.eq_nil_or_concat after with rfl | ⟨rest, x, rfl⟩
      · obtain ⟨hb, hx⟩ := List.append_inj' h rfl
        obtain rfl := (List.cons.inj hx).1
        exact ⟨names, [], rfl, hl, hb⟩
      · rw [List.concat_eq_append, ← List.cons_append, ← List.append_assoc] at h
        exact hearlier (List.append_inj' h rfl).1

/-- The entries in front of one are those whose keys were registered before its key. -/
theorem mem_before (hs : s.Lists es) (hr : s.registry.Records calls)
    {before after : List (String × RatioUnit)} {e c : String × RatioUnit}
    (he : es = before ++ e :: after) (hc : c ∈ es) (hp : Precedes calls c.1 e.1) :
    c ∈ before := by
  have hkeys : (calls.map (·.key)).eraseDups = before.map (·.1) ++ e.1 :: after.map (·.1) := by
    rw [← hr.keys, hs.keys_eq, he, List.map_append, List.map_cons]
  obtain ⟨front, back, hnames, hn, hf⟩ := eraseDups_eq_append hkeys
  have hfront : c.1 ∈ front := by
    by_contra hm
    rw [Precedes, hnames, List.idxOf_append_of_notMem hm, List.idxOf_append_of_notMem hn,
      List.idxOf_cons_self] at hp
    omega
  rw [← List.mem_eraseDups, hf] at hfront
  obtain ⟨d, hd, hk⟩ := List.mem_map.mp hfront
  have hdistinct : (es.map (·.1)).Nodup := hs.keys_eq ▸ hr.distinct
  have hde : d ∈ es := by simp [he, hd]
  rwa [← List.inj_on_of_nodup_map hdistinct hde hc hk]

theorem firstClosest_of_closest (hs : s.Lists es) (hr : s.registry.Records calls)
    {target : RatioUnit} {e : String × RatioUnit} (h : Closest target es e) :
    FirstClosest calls target e.1 e.2 where
  bound := (hs.binds_iff hr).mpr h.mem
  dimension_eq := h.dimension_eq
  le k w hw hd := by
    have hle := h.le ((hs.binds_iff hr).mp hw)
    exact hle hd
  lt k w hw hd hp := by
    have hm : (k, w) ∈ es := (hs.binds_iff hr).mp hw
    obtain ⟨before, after, he, -, hb, -⟩ := h
    have hc : (k, w) ∈ before := mem_before hs hr he hm hp
    exact hb (k, w) hc hd

theorem Lists.chooses (hs : s.Lists es) (hr : s.registry.Records calls) (target : RatioUnit) :
    s.Chooses calls target := by
  have hf := foldl_nearer target es
  cases hb : es.foldl (nearer target) none with
  | none =>
    rw [hb] at hf
    have hnone : ∀ key u, Binds calls key u → u.dimension ≠ target.dimension :=
      fun key u hu => hf (key, u) ((hs.binds_iff hr).mp hu)
    refine ⟨iff_of_true (hs.bestUnit_none hf) hnone, ?_⟩
    rintro ⟨key, u, hu, hd⟩
    exact absurd hd (hnone key u hu)
  | some e =>
    rw [hb] at hf
    have hbest := hs.bestUnit_closest hf
    have hfirst := firstClosest_of_closest hs hr hf
    refine ⟨iff_of_false ?_ ?_, fun _ =>
      ⟨e.1, e.2, hbest, hs.mem_iff.mpr hf.mem, hfirst, hs.bestUnit_closest hf.self⟩⟩
    · rw [hbest]
      nofun
    · intro hnone
      exact hnone e.1 e.2 hfirst.bound hfirst.dimension_eq

/-- The calls that register some units with fractions for factors. -/
def ratioCalls (units : List (String × RatioUnit)) : List Registration :=
  units.map fun c => ⟨c.1, c.2.operand⟩

theorem Lists.registerAll (hs : s.Lists es) (units : List (String × RatioUnit)) :
    ∃ es', (s.registerAll (ratioCalls units)).Lists es' := by
  induction units generalizing s es with
  | nil => exact ⟨es, hs⟩
  | cons c units ih => exact ih (hs.register c.1 c.2)

theorem chooses_registerAll {base : BaseUnits} {number : NumberKind} {own : List Registration}
    (hs : (registerAll ⟨base, number, {}⟩ own).Lists es) (units : List (String × RatioUnit))
    (target : RatioUnit) :
    ((registerAll ⟨base, number, {}⟩ own).registerAll (ratioCalls units)).Chooses
      (own ++ ratioCalls units) target := by
  obtain ⟨es', hl⟩ := hs.registerAll units
  refine hl.chooses ?_ target
  rw [← registerAll_append]
  exact records_registerAll base number (own ++ ratioCalls units)

theorem lists_withBase (base : BaseUnits) : ∃ es, (withBase base .ratio).Lists es := by
  refine withBase_induction (P := fun s => ∃ es, s.Lists es) ⟨[], rfl⟩ ?_
  rintro s axis ⟨es, hs⟩
  exact ⟨_, hs.register (base.symbol axis) ⟨.power axis 1, 1⟩⟩

/-- After any calls that register units with fractions for factors, a system displays a unit in the
first of the closest registered units of its dimension, and in none if there is none. A unit that
has been chosen is displayed in itself. -/
theorem bestUnit_after_calls (base : BaseUnits) (number : NumberKind)
    (units : List (String × RatioUnit)) (target : RatioUnit) :
    (registerAll ⟨base, number, {}⟩ (ratioCalls units)).Chooses (ratioCalls units) target ∧
      ((withBase base .ratio).registerAll (ratioCalls units)).Chooses
        (baseCalls base .ratio ++ ratioCalls units) target ∧
      ∃ s own, si .ratio = .ok s ∧ siCalls .ratio = .ok own ∧
        (s.registerAll (ratioCalls units)).Chooses (own ++ ratioCalls units) target := by
  refine ⟨?_, ?_, ?_⟩
  · have hs : (registerAll ⟨base, number, {}⟩ []).Lists [] := rfl
    exact chooses_registerAll hs units target
  · obtain ⟨es, hs⟩ := lists_withBase base
    rw [withBase_eq] at hs ⊢
    exact chooses_registerAll hs units target
  · obtain ⟨s, hs, es, he⟩ := exact_si
    have hsi := hs
    rw [si_eq] at hsi
    obtain ⟨own, hown, rfl⟩ := map_eq_ok.mp hsi
    exact ⟨_, own, hs, hown, chooses_registerAll he.entries units target⟩

end UnitSystem

end Metrology
