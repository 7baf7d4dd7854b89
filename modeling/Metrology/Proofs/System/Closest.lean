import Mathlib.Data.List.Induction
import Metrology.Proofs.MeasureUnit
import Metrology.System.Rendering

namespace Metrology

namespace RatioUnit

/-- How far the factors of two units are apart. -/
def distance (u target : RatioUnit) : Rat :=
  |u.factor - target.factor|

end RatioUnit

namespace UnitSystem

/-- The better of the best entry so far and the next one. -/
def nearer (target : RatioUnit) (best : Option (String × RatioUnit))
    (entry : String × RatioUnit) : Option (String × RatioUnit) :=
  if entry.2.dimension = target.dimension then
    match best with
    | none => some entry
    | some b => if entry.2.distance target < b.2.distance target then some entry else some b
  else best

def candidate (target : RatioUnit) (b : String × RatioUnit) : Candidate :=
  ⟨b.1, b.2.unit, .number (.ratio (b.2.distance target))⟩

theorem lt_ratio (p q : Rat) :
    Arithmetic.lt (Operand.number (.ratio p)) (Operand.number (.ratio q)) =
      .ok (decide (p < q)) := by
  change Except.ok (some (Number.compareRat p q) == some .lt) = _
  unfold Number.compareRat
  by_cases hl : p < q
  · simp [hl]
  · by_cases he : p = q <;> simp [hl, he]

theorem closer_eq (target : RatioUnit) (best : Option (String × RatioUnit))
    (entry : String × RatioUnit) :
    closer target.operand (best.map (candidate target)) (entry.1, entry.2.operand) =
      .ok ((nearer target best entry).map (candidate target)) := by
  have hs : Arithmetic.sub entry.2.unit.factor target.unit.factor =
      .ok (Operand.number (.ratio (entry.2.factor - target.factor))) := rfl
  have ha : Arithmetic.abs (Operand.number (.ratio (entry.2.factor - target.factor))) =
      .ok (Operand.number (.ratio (entry.2.distance target))) :=
    congrArg (Except.map Operand.number) (Number.abs_ratio _)
  have hd : entry.2.operand.dimension? = .ok entry.2.dimension := rfl
  have htd : target.operand.dimension? = .ok target.dimension := rfl
  have hf : entry.2.operand.factor? = .ok entry.2.unit.factor := rfl
  have htf : target.operand.factor? = .ok target.unit.factor := rfl
  simp only [closer, nearer, hd, htd, hf, htf, bind, Except.bind, hs, ha, ne_eq, ite_not]
  split
  · cases best with
    | none => rfl
    | some b =>
      simp only [Option.map_some, candidate, lt_ratio, decide_eq_true_eq]
      split <;> rfl
  · rfl

theorem foldlM_closer (target : RatioUnit) (best : Option (String × RatioUnit))
    (es : List (String × RatioUnit)) :
    (es.map fun e => (e.1, e.2.operand)).foldlM (closer target.operand)
        (best.map (candidate target)) =
      .ok ((es.foldl (nearer target) best).map (candidate target)) := by
  induction es generalizing best with
  | nil => rfl
  | cons e es ih =>
    rw [List.map_cons, List.foldlM_cons, closer_eq]
    exact ih (nearer target best e)

/-- Whether an entry is the first of those that are closest to a unit. -/
def Closest (target : RatioUnit) (es : List (String × RatioUnit)) (e : String × RatioUnit) :
    Prop :=
  ∃ before after, es = before ++ e :: after ∧ e.2.dimension = target.dimension ∧
    (∀ c ∈ before, c.2.dimension = target.dimension →
      e.2.distance target < c.2.distance target) ∧
    ∀ c ∈ after, c.2.dimension = target.dimension → e.2.distance target ≤ c.2.distance target

theorem Closest.mem {target : RatioUnit} {es : List (String × RatioUnit)}
    {e : String × RatioUnit} (h : Closest target es e) : e ∈ es := by
  obtain ⟨before, after, rfl, -⟩ := h
  simp

theorem Closest.dimension_eq {target : RatioUnit} {es : List (String × RatioUnit)}
    {e : String × RatioUnit} (h : Closest target es e) : e.2.dimension = target.dimension := by
  obtain ⟨before, after, -, hd, -⟩ := h
  exact hd

/-- No other entry of its dimension is closer. -/
theorem Closest.le {target : RatioUnit} {es : List (String × RatioUnit)}
    {e : String × RatioUnit} (h : Closest target es e) {c : String × RatioUnit} (hc : c ∈ es)
    (hd : c.2.dimension = target.dimension) : e.2.distance target ≤ c.2.distance target := by
  obtain ⟨before, after, rfl, -, hb, ha⟩ := h
  rcases List.mem_append.mp hc with hm | hm
  · exact le_of_lt (hb c hm hd)
  · rcases List.mem_cons.mp hm with rfl | hm
    · exact le_refl _
    · exact ha c hm hd

theorem Closest.concat {target : RatioUnit} {es : List (String × RatioUnit)}
    {b e : String × RatioUnit} (h : Closest target es b)
    (he : e.2.dimension = target.dimension → b.2.distance target ≤ e.2.distance target) :
    Closest target (es ++ [e]) b := by
  obtain ⟨before, after, rfl, hd, hb, ha⟩ := h
  refine ⟨before, after ++ [e], by simp, hd, hb, ?_⟩
  intro c hc
  rcases List.mem_append.mp hc with hm | hm
  · exact ha c hm
  · rw [List.mem_singleton.mp hm]
    exact he

/-- There is only one first of the closest entries. -/
theorem Closest.unique {target : RatioUnit} {es : List (String × RatioUnit)}
    {b e : String × RatioUnit} (hb : Closest target es b) (he : Closest target es e) : b = e := by
  have hle := hb.le he.mem he.dimension_eq
  have hge := he.le hb.mem hb.dimension_eq
  obtain ⟨before, after, rfl, hbd, hbb, -⟩ := hb
  obtain ⟨front, back, heq, hed, heb, -⟩ := he
  rcases List.append_eq_append_iff.mp heq with ⟨m, rfl, hm⟩ | ⟨m, rfl, hm⟩
  · cases m with
    | nil => exact (List.cons.inj hm).1
    | cons c m =>
      obtain ⟨rfl, -⟩ := List.cons.inj hm
      exact absurd (heb b (by simp) hbd) (not_lt.mpr hle)
  · cases m with
    | nil => exact (List.cons.inj hm).1.symm
    | cons c m =>
      obtain ⟨rfl, -⟩ := List.cons.inj hm
      exact absurd (hbb e (by simp) hed) (not_lt.mpr hge)

/-- The closest entry is the closest to itself. -/
theorem Closest.self {target : RatioUnit} {es : List (String × RatioUnit)}
    {e : String × RatioUnit} (h : Closest target es e) : Closest e.2 es e := by
  obtain ⟨before, after, rfl, hd, hb, -⟩ := h
  have hz : e.2.distance e.2 = 0 := by simp [RatioUnit.distance]
  refine ⟨before, after, rfl, rfl, ?_, ?_⟩
  · intro c hc hcd
    have hlt := hb c hc (hcd.trans hd)
    have hne : c.2.factor ≠ e.2.factor := by
      intro h
      unfold RatioUnit.distance at hlt
      rw [h] at hlt
      exact lt_irrefl _ hlt
    rw [hz]
    exact abs_pos.mpr (sub_ne_zero.mpr hne)
  · intro c _ _
    rw [hz]
    exact abs_nonneg _

/-- The induction is on the entries from the last one on, which either is closer than all in front
of it or leaves the choice as it was. -/
theorem foldl_nearer (target : RatioUnit) (es : List (String × RatioUnit)) :
    match es.foldl (nearer target) none with
    | none => ∀ e ∈ es, e.2.dimension ≠ target.dimension
    | some e => Closest target es e := by
  induction es using List.reverseRecOn with
  | nil => simp
  | append_singleton es e ih =>
    rw [List.foldl_append, List.foldl_cons, List.foldl_nil]
    cases hb : es.foldl (nearer target) none with
    | none =>
      rw [hb] at ih
      unfold nearer
      by_cases hd : e.2.dimension = target.dimension
      · rw [if_pos hd]
        exact ⟨es, [], rfl, hd, fun c hc hcd => absurd hcd (ih c hc), by simp⟩
      · rw [if_neg hd]
        intro c hc
        rcases List.mem_append.mp hc with hm | hm
        · exact ih c hm
        · rw [List.mem_singleton.mp hm]
          exact hd
    | some b =>
      rw [hb] at ih
      unfold nearer
      by_cases hd : e.2.dimension = target.dimension
      · rw [if_pos hd]
        by_cases hl : e.2.distance target < b.2.distance target
        · simp only [if_pos hl]
          exact ⟨es, [], rfl, hd, fun c hc hcd => lt_of_lt_of_le hl (ih.le hc hcd), by simp⟩
        · simp only [if_neg hl]
          exact ih.concat fun _ => not_lt.mp hl
      · rw [if_neg hd]
        exact ih.concat fun h => absurd h hd

end UnitSystem

end Metrology
