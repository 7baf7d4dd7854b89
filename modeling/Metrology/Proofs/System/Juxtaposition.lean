import Metrology.Proofs.Expression.Juxtaposition
import Metrology.Proofs.System.Meaning

namespace Metrology.UnitSystem

open Expression

variable {s : UnitSystem} {a b : String} {ts us : List Term}

theorem Resolves.separated (ha : s.Resolves a ts) (hb : s.Resolves b us) {c : Char}
    (hc : Separates c) : s.Resolves (a ++ .singleton c ++ b) (ts ++ us) := by
  refine ⟨?_, List.forall_mem_append.mpr ⟨ha.2, hb.2⟩⟩
  rw [scan_separated ha.1 hc, hb.1]
  rfl

theorem Resolves.slash (ha : s.Resolves a ts) {t : Term} (hb : s.Resolves b (t :: us))
    (ht : Invertible b t us) :
    s.Resolves (a ++ "/" ++ b) (ts ++ { t with inverted := true } :: us) := by
  obtain ⟨hsymbol, hrest⟩ := List.forall_mem_cons.mp hb.2
  exact ⟨scan_slash ha.1 ht,
    List.forall_mem_append.mpr ⟨ha.2, List.forall_mem_cons.mpr ⟨hsymbol, hrest⟩⟩⟩

variable {u v : MeasureUnit Operand}

theorem Proper.unit_separated (h : s.Proper) (hu : s.unit a = .ok u) (hv : s.unit b = .ok v)
    {c : Char} (hc : Separates c) :
    ∃ w, u.compose v = .ok w ∧ s.unit (a ++ .singleton c ++ b) = .ok w := by
  obtain ⟨table, ht⟩ := h.exists_table
  obtain ⟨ts, ha, rfl⟩ := ht.exists_resolves h.number hu
  obtain ⟨us, hb, rfl⟩ := ht.exists_resolves h.number hv
  refine ⟨_, ProperUnit.compose_unit _ _, ?_⟩
  rw [ht.unit_eq h.number (ha.separated hb hc), meaning_append]

theorem Proper.unit_slash (h : s.Proper) (hu : s.unit a = .ok u) (hv : s.unit b = .ok v)
    {t : Term} (hb : Invertible b t []) :
    ∃ w, u.invertCombine v = .ok w ∧ s.unit (a ++ "/" ++ b) = .ok w := by
  obtain ⟨table, ht⟩ := h.exists_table
  obtain ⟨ts, ha, rfl⟩ := ht.exists_resolves h.number hu
  obtain ⟨us, hr, rfl⟩ := ht.exists_resolves h.number hv
  obtain rfl : us = [t] := congrArg Scan.terms (hr.1.symm.trans hb.scan)
  refine ⟨_, ProperUnit.invertCombine_unit _ _, ?_⟩
  rw [ht.unit_eq h.number (ha.slash hr hb), meaning_append, meaning_inverted table hb.upright,
    div_eq_mul_inv]

/-- Behind a text that scans and a separator, every text is scanned as it is alone, to its end or
to its failure. Behind a slash its first term is inverted, and no other. So a separator stands for
the product of the two units, and a slash in front of a single term for the quotient. -/
theorem joined_texts (ha : scan a = ⟨ts, none⟩) (b : String) :
    (∀ c, Separates c → scan (a ++ .singleton c ++ b) =
      ⟨ts ++ (scan b).terms, (scan b).failure?.map (·.within (a ++ .singleton c ++ b))⟩) ∧
    (∀ t us, Invertible b t us →
      scan (a ++ "/" ++ b) = ⟨ts ++ { t with inverted := true } :: us, none⟩) ∧
    ∀ s : UnitSystem, s.Proper → ∀ u v, s.unit a = .ok u → s.unit b = .ok v →
      (∀ c, Separates c →
        ∃ w, u.compose v = .ok w ∧ s.unit (a ++ .singleton c ++ b) = .ok w) ∧
      ∀ t, Invertible b t [] →
        ∃ w, u.invertCombine v = .ok w ∧ s.unit (a ++ "/" ++ b) = .ok w := by
  refine ⟨fun c hc => scan_separated ha hc b, fun t us hb => scan_slash ha hb, ?_⟩
  intro s hs u v hu hv
  exact ⟨fun c hc => hs.unit_separated hu hv hc, fun t hb => hs.unit_slash hu hv hb⟩

/-- The same for a force, term by term. -/
theorem joined_texts_force : ∃ u v w, scan "kg m" = ⟨[⟨"kg", 1, false⟩, ⟨"m", 1, false⟩], none⟩ ∧
    scan "kg m/s2" = ⟨[⟨"kg", 1, false⟩, ⟨"m", 1, false⟩, ⟨"s", 2, true⟩], none⟩ ∧
    compass.unit "kg m" = .ok u ∧ compass.unit "s2" = .ok v ∧ u.invertCombine v = .ok w ∧
    compass.unit "kg m/s2" = .ok w := by
  obtain ⟨table, ht⟩ := proper_compass.exists_table
  have ha : compass.Resolves "kg m" [⟨"kg", 1, false⟩, ⟨"m", 1, false⟩] :=
    resolves_of_check (by decide +kernel) (by decide +kernel) (by decide +kernel)
  have hr : compass.Resolves "s2" [⟨"s", 2, false⟩] :=
    resolves_of_check (by decide +kernel) (by decide +kernel) (by decide +kernel)
  have hb : Invertible "s2" ⟨"s", 2, false⟩ [] := ⟨hr.1, rfl, by decide +kernel⟩
  have hu := ht.unit_eq proper_compass.number ha
  have hv := ht.unit_eq proper_compass.number hr
  obtain ⟨-, hscan, hunit⟩ := joined_texts ha.1 "s2"
  obtain ⟨w, hw, he⟩ := (hunit compass proper_compass _ _ hu hv).2 _ hb
  exact ⟨_, _, w, ha.1, hscan _ _ hb, hu, hv, hw, he⟩

end Metrology.UnitSystem
