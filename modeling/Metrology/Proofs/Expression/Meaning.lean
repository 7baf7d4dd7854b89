import Mathlib.Algebra.BigOperators.Group.Finset.Basic
import Mathlib.Algebra.BigOperators.Group.Finset.Piecewise
import Mathlib.Data.Finset.Dedup
import Metrology.Proofs.Expression.Product
import Metrology.Proofs.MeasureUnit.Group

namespace Metrology.Expression

/-- The product of the powers that some terms stand for. -/
def meaning (table : String → ProperUnit) (ts : List Term) : ProperUnit :=
  (ts.map fun t => table (symbolKey t.symbol) ^ t.signedExponent).prod

variable (table : String → ProperUnit)

theorem meaning_cons (t : Term) (ts : List Term) :
    meaning table (t :: ts) =
      table (symbolKey t.symbol) ^ t.signedExponent * meaning table ts :=
  List.prod_cons

theorem meaning_append (ts us : List Term) :
    meaning table (ts ++ us) = meaning table ts * meaning table us := by
  rw [meaning, List.map_append, List.prod_append]
  rfl

/-- A slash in front of a term that has none makes it the reciprocal. -/
theorem meaning_inverted {t : Term} (h : t.inverted = false) :
    meaning table [{ t with inverted := true }] = (meaning table [t])⁻¹ := by
  have he : Term.signedExponent { t with inverted := true } = -t.signedExponent := by
    simp [Term.signedExponent, h]
  simp only [meaning, List.map_cons, List.map_nil, List.prod_singleton, he, zpow_neg]

/-- The sum of the signed exponents that a key has. -/
def netExponent (key : String) (ts : List Term) : Int :=
  ((ts.filter (symbolKey ·.symbol = key)).map Term.signedExponent).sum

theorem netExponent_cons (key : String) (t : Term) (ts : List Term) :
    netExponent key (t :: ts) =
      (if symbolKey t.symbol = key then t.signedExponent else 0) + netExponent key ts := by
  by_cases h : symbolKey t.symbol = key <;> simp [netExponent, h]

/-- The terms of one key may be drawn together. -/
theorem meaning_eq_prod {keys : Finset String} {ts : List Term}
    (h : ∀ t ∈ ts, symbolKey t.symbol ∈ keys) :
    meaning table ts = ∏ key ∈ keys, table key ^ netExponent key ts := by
  induction ts with
  | nil =>
    have hn : ∀ key ∈ keys, table key ^ netExponent key [] = 1 := fun key _ => zpow_zero (table key)
    exact (Finset.prod_eq_one hn).symm
  | cons t ts ih =>
    have ht : ∀ key, table key ^ netExponent key (t :: ts) =
        (if symbolKey t.symbol = key then table key ^ t.signedExponent else 1) *
          table key ^ netExponent key ts := by
      intro key
      rw [netExponent_cons, zpow_add]
      split
      · rfl
      · rw [zpow_zero]
    rw [meaning_cons, ih fun u hu => h u (by simp [hu]), Finset.prod_congr rfl fun key _ => ht key,
      Finset.prod_mul_distrib, Finset.prod_ite_eq, if_pos (h t (by simp))]

/-- Terms with the same net exponents denote the same unit. -/
theorem meaning_congr {ts us : List Term}
    (h : ∀ key, netExponent key ts = netExponent key us) :
    meaning table ts = meaning table us := by
  have hmem : ∀ t ∈ ts ++ us, symbolKey t.symbol ∈ ((ts ++ us).map (symbolKey ·.symbol)).toFinset :=
    fun t ht => List.mem_toFinset.mpr (List.mem_map.mpr ⟨t, ht, rfl⟩)
  rw [meaning_eq_prod table fun t ht => hmem t (List.mem_append_left us ht),
    meaning_eq_prod table fun t ht => hmem t (List.mem_append_right ts ht)]
  exact Finset.prod_congr rfl fun key _ => by rw [h key]

theorem exponent_meaning (ts : List Term) (axis : Axis) :
    (meaning table ts).dimension.exponent axis =
      (ts.map fun t =>
        t.signedExponent * (table (symbolKey t.symbol)).dimension.exponent axis).sum := by
  rw [meaning, ProperUnit.exponent_prod, List.map_map]
  refine congrArg List.sum (List.map_congr_left fun t _ => ?_)
  exact Dimension.exponent_zsmul t.signedExponent _ axis

theorem factor_meaning (ts : List Term) :
    (meaning table ts).factor =
      (ts.map fun t => (table (symbolKey t.symbol)).factor ^ t.signedExponent).prod := by
  rw [meaning, ProperUnit.factor_prod, List.map_map]
  rfl

variable {table} {lookup : String → Except Failure Operand}

theorem product_bound {ts : List Term}
    (hl : ∀ t ∈ ts, lookup t.symbol = .ok (table (symbolKey t.symbol)).operand) (p : ProperUnit) :
    product lookup p.unit ts = .ok (p * meaning table ts).unit := by
  induction ts generalizing p with
  | nil =>
    rw [meaning, List.map_nil, List.prod_nil, mul_one]
    rfl
  | cons t ts ih =>
    have ht := hl t (by simp)
    rw [product_cons ht (ProperUnit.factor_ne_zero _), meaning_cons, ← mul_assoc]
    exact ih (fun u hu => hl u (by simp [hu])) (p * table (symbolKey t.symbol) ^ t.signedExponent)

theorem product_unbound {before : List Term} {t : Term} {e : Failure}
    (hl : ∀ u ∈ before, lookup u.symbol = .ok (table (symbolKey u.symbol)).operand)
    (ht : lookup t.symbol = .error e) (p : ProperUnit) (after : List Term) :
    product lookup p.unit (before ++ t :: after) = .error e := by
  have hb := product_bound hl p
  unfold product at hb ⊢
  rw [List.foldlM_append, hb]
  change (t :: after).foldlM (multiply lookup) _ = _
  rw [List.foldlM_cons, multiply, ht]
  rfl

end Metrology.Expression
