import Metrology.Proofs.Text.Canonical.Composition
import Metrology.Text.Character

namespace Metrology.Text.Canonical

/-- The canonical form of a list of characters. -/
def normal (cs : List Char) : List Char :=
  compose (order (decompose cs))

theorem canonical_eq (text : String) : canonical text = String.ofList (normal text.toList) := rfl

theorem toList_canonical (text : String) : (canonical text).toList = normal text.toList := by
  rw [canonical_eq, String.toList_ofList]

theorem normal_nil : normal [] = [] := rfl

/-- A character that stands for a base which composes with nothing. -/
structure Divides (c g : Char) : Prop where
  expand : expand 3 c = [g]
  base : combiningClass g = 0
  alone_behind : ∀ d, compose? d g = none
  alone_in_front : ∀ d, compose? g d = none

/-- A character that does not compose with the base starts anew or joins the marks. -/
theorem settle_apart {b c : Char} (h : compose? b c = none) (marks cs : List Char) :
    settle b marks (c :: cs) =
      if combiningClass c = 0 then b :: marks ++ settle c [] cs
      else settle b (marks ++ [c]) cs := by
  simp only [settle, h, ite_self]

theorem settle_divides {c g : Char} (h : Divides c g) (ds : List Char) (b : Char)
    (marks cs : List Char) :
    settle b marks (cs ++ g :: ds) = settle b marks cs ++ settle g [] ds := by
  induction cs generalizing b marks with
  | nil =>
    rw [List.nil_append, settle_apart (h.alone_behind b), if_pos h.base]
    rfl
  | cons e cs ih =>
    rw [List.cons_append, settle, settle]
    split
    · exact ih _ _
    · split
      · rw [ih]
        simp
      · exact ih _ _

theorem settle_alone {c g : Char} (h : Divides c g) (marks ds : List Char) :
    settle g marks ds = g :: (marks ++ compose ds) := by
  induction ds generalizing marks with
  | nil => rw [settle, compose, List.append_nil]
  | cons d ds ih =>
    rw [settle_apart (h.alone_in_front d), compose]
    split
    · rfl
    · rw [ih, List.append_assoc]
      rfl

theorem compose_divides {c g : Char} (h : Divides c g) (cs ds : List Char) :
    compose (cs ++ g :: ds) = compose cs ++ g :: compose ds := by
  have hg : compose (g :: ds) = g :: compose ds := by
    rw [compose, if_pos h.base, settle_alone h]
    rfl
  induction cs with
  | nil => exact hg
  | cons e cs ih =>
    rw [List.cons_append, compose, compose]
    split
    · rw [settle_divides h, settle_alone h]
      rfl
    · rw [ih, List.cons_append]

theorem normal_divides {c g : Char} (h : Divides c g) (cs ds : List Char) :
    normal (cs ++ c :: ds) = normal cs ++ g :: normal ds := by
  have hd : decompose (cs ++ c :: ds) = decompose cs ++ g :: decompose ds := by
    rw [decompose_append, decompose, decompose, List.flatMap_cons, h.expand]
    rfl
  rw [normal, hd, order_base h.base, compose_divides h]
  rfl

/-- The sets of the first and the second code points of the pairs that compose. -/
def firsts : Nat := mask (composites.flatMap fun group => group.2.map (·.1))

def seconds : Nat := mask (composites.map (·.1))

/-- Whether a code point is neither the first nor the second of a pair that composes. -/
def composesNever (n : Nat) : Bool :=
  (n < 0x1100 || 0x1200 ≤ n) && (n < 0xAC00 || 0xD7A3 < n) && !firsts.testBit n
    && !seconds.testBit n

theorem testBit_composite? {a b n : Nat} (h : composite? a b = some n) :
    firsts.testBit a = true ∧ seconds.testBit b = true := by
  obtain ⟨group, hg, hn⟩ := composite?_mem h
  exact ⟨testBit_mask.mpr (List.mem_flatMap.mpr ⟨_, hg, List.mem_map.mpr ⟨_, hn, rfl⟩⟩),
    testBit_mask.mpr (List.mem_map.mpr ⟨_, hg, rfl⟩)⟩

theorem compose?_none {a b : Char} (h : syllable? a.toNat b.toNat = none)
    (hc : composite? a.toNat b.toNat = none) : compose? a b = none := by
  unfold compose?
  split
  · rfl
  · rw [h, hc]
    rfl

theorem divides_of_check {c g : Char} (he : expand 3 c = [g]) (hb : combiningClass g = 0)
    (hn : composesNever g.toNat = true) : Divides c g := by
  simp only [composesNever, Bool.and_eq_true, Bool.or_eq_true, decide_eq_true_eq,
    Bool.not_eq_true'] at hn
  obtain ⟨⟨⟨hj, hs⟩, hf⟩, hl⟩ := hn
  refine ⟨he, hb, fun d => compose?_none ?_ ?_, fun d => compose?_none ?_ ?_⟩
  · unfold syllable?
    rw [if_neg (by omega), if_neg (by omega)]
  · cases hc : composite? d.toNat g.toNat with
    | none => rfl
    | some n =>
      rw [(testBit_composite? hc).2] at hl
      contradiction
  · unfold syllable?
    rw [if_neg (by omega), if_neg (by omega)]
  · cases hc : composite? g.toNat d.toNat with
    | none => rfl
    | some n =>
      rw [(testBit_composite? hc).1] at hf
      contradiction

theorem glyphs_divide : ∀ pair ∈ glyphs, expand 3 pair.2 = [pair.2] ∧
    combiningClass pair.2 = 0 ∧ composesNever pair.2.toNat = true := by
  decide +kernel

/-- Whether all that a blank expands to is a blank that composes with nothing. -/
def blankDivides (n : Nat) : Bool :=
  match expand 3 (Char.ofNat n) with
  | [g] => isBlank g && combiningClass g == 0 && composesNever g.toNat
  | _ => false

theorem blanks_divide : ∀ n ∈ blanks, blankDivides n = true := by
  decide +kernel

theorem divides_glyph {pair : Char × Char} (h : pair ∈ glyphs) : Divides pair.2 pair.2 := by
  obtain ⟨he, hb, hn⟩ := glyphs_divide pair h
  exact divides_of_check he hb hn

theorem divides_blank {c : Char} (h : isBlank c = true) : ∃ g, isBlank g = true ∧ Divides c g := by
  have hd := blanks_divide c.toNat (List.contains_iff_mem.mp h)
  unfold blankDivides at hd
  split at hd
  · rename_i g he
    simp only [Bool.and_eq_true, beq_iff_eq] at hd
    obtain ⟨⟨hg, hb⟩, hn⟩ := hd
    rw [Char.ofNat_toNat] at he
    exact ⟨g, hg, divides_of_check he hb hn⟩
  · cases hd

/-- A run of glyphs divides a text. -/
theorem normal_glyphs {gs : List Char} (hg : ∀ g ∈ gs, ∃ pair ∈ glyphs, pair.2 = g)
    (hn : gs ≠ []) (cs ds : List Char) :
    normal (cs ++ (gs ++ ds)) = normal cs ++ (gs ++ normal ds) := by
  induction gs generalizing cs with
  | nil => exact absurd rfl hn
  | cons g gs ih =>
    obtain ⟨pair, hp, rfl⟩ := hg g (by simp)
    rw [List.cons_append, normal_divides (divides_glyph hp)]
    by_cases hgs : gs = []
    · rw [hgs]
      rfl
    · have hr := ih (fun g hm => hg g (by simp [hm])) hgs []
      rw [List.nil_append, normal_nil, List.nil_append] at hr
      rw [hr]
      rfl

theorem settle_low (b : Char) {cs : List Char} (h : ∀ c ∈ cs, c.toNat < 0xC0) :
    settle b [] cs = b :: cs := by
  induction cs generalizing b with
  | nil => rfl
  | cons c cs ih =>
    have hc : c.toNat < 0x300 := Nat.lt_trans (h c (by simp)) (by decide)
    have ha : compose? b c = none := if_pos hc
    have h0 : combiningClass c = 0 := if_pos hc
    rw [settle_apart ha, if_pos h0, ih c fun d hd => h d (by simp [hd])]
    rfl

theorem normal_low {cs : List Char} (h : ∀ c ∈ cs, c.toNat < 0xC0) : normal cs = cs := by
  have hd : decompose cs = cs := decompose_of_none fun c hc => if_pos (h c hc)
  have h0 : ∀ c ∈ cs, combiningClass c = 0 :=
    fun c hc => if_pos (Nat.lt_trans (h c hc) (by decide))
  have ho : order cs = cs := by
    refine order_of_ordered (List.Pairwise.isChain ?_)
    exact List.pairwise_iff_forall_sublist.mpr fun hs => .inl (h0 _ (hs.subset (by simp)))
  rw [normal, hd, ho]
  cases cs with
  | nil => rfl
  | cons c cs =>
    rw [compose, if_pos (h0 c (by simp)), settle_low c fun d hd => h d (by simp [hd])]

end Metrology.Text.Canonical
