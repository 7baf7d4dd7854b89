import Metrology.Text.Character

namespace Metrology.Text

/-- A superscript digit or the superscript minus. -/
def IsGlyph (c : Char) : Prop :=
  c ∈ ['⁰', '¹', '²', '³', '⁴', '⁵', '⁶', '⁷', '⁸', '⁹', '⁻']

instance (c : Char) : Decidable (IsGlyph c) :=
  inferInstanceAs (Decidable (_ ∈ _))

theorem isGlyph_iff {c : Char} : IsGlyph c ↔ ∃ pair ∈ glyphs, pair.2 = c :=
  List.mem_map (f := Prod.snd) (l := glyphs)

/-- A plain character and its glyph differ. Both are raised to the glyph, and both are lowered to
the plain character. -/
theorem glyphs_paired : ∀ pair ∈ glyphs, raise pair.1 = pair.2 ∧ raise pair.2 = pair.2 ∧
    lower pair.1 = pair.1 ∧ lower pair.2 = pair.1 ∧ pair.1 ≠ pair.2 := by
  decide

/-- A character is raised to its glyph, or stays. -/
theorem raise_cases (c : Char) : (∃ pair ∈ glyphs, pair.1 = c ∧ raise c = pair.2) ∨ raise c = c := by
  unfold raise
  cases h : glyphs.lookup c with
  | none => exact .inr rfl
  | some g =>
    obtain ⟨front, back, he, -⟩ := List.lookup_eq_some_iff.mp h
    exact .inl ⟨(c, g), he ▸ List.mem_append_right front List.mem_cons_self, rfl, rfl⟩

/-- A glyph is lowered to its character, and only a glyph does not stay. -/
theorem lower_cases (c : Char) : (∃ pair ∈ glyphs, pair.2 = c ∧ lower c = pair.1) ∨
    (¬IsGlyph c ∧ lower c = c) := by
  unfold lower
  cases h : glyphs.find? (·.2 == c) with
  | none =>
    refine .inr ⟨fun hg => ?_, rfl⟩
    obtain ⟨pair, hm, hp⟩ := isGlyph_iff.mp hg
    exact List.find?_eq_none.mp h pair hm (beq_iff_eq.mpr hp)
  | some pair =>
    exact .inl ⟨pair, List.mem_of_find?_eq_some h, by simpa using List.find?_some h, rfl⟩

theorem lower_raise (c : Char) : lower (raise c) = lower c := by
  rcases raise_cases c with ⟨pair, hm, rfl, hr⟩ | hr
  · obtain ⟨-, -, hplain, hglyph, -⟩ := glyphs_paired pair hm
    rw [hr, hplain, hglyph]
  · rw [hr]

theorem raise_lower (c : Char) : raise (lower c) = raise c := by
  rcases lower_cases c with ⟨pair, hm, rfl, hl⟩ | ⟨-, hl⟩
  · obtain ⟨hplain, hglyph, -⟩ := glyphs_paired pair hm
    rw [hl, hplain, hglyph]
  · rw [hl]

theorem lower_eq_self_iff {c : Char} : lower c = c ↔ ¬IsGlyph c := by
  rcases lower_cases c with ⟨pair, hm, rfl, hl⟩ | ⟨hg, hl⟩
  · obtain ⟨-, -, -, -, hne⟩ := glyphs_paired pair hm
    rw [hl]
    exact iff_of_false hne fun hg => hg (isGlyph_iff.mpr ⟨pair, hm, rfl⟩)
  · exact iff_of_true hl hg

theorem raise_glyph {c : Char} (h : IsGlyph c) : raise c = c := by
  obtain ⟨pair, hm, rfl⟩ := isGlyph_iff.mp h
  exact (glyphs_paired pair hm).2.1

theorem fromSuperscript_toSuperscript (text : String) :
    fromSuperscript (toSuperscript text) = fromSuperscript text := by
  rw [fromSuperscript, toSuperscript, String.toList_ofList, List.map_map, fromSuperscript]
  exact congrArg String.ofList (List.map_congr_left fun c _ => lower_raise c)

theorem toSuperscript_fromSuperscript (text : String) :
    toSuperscript (fromSuperscript text) = toSuperscript text := by
  rw [toSuperscript, fromSuperscript, String.toList_ofList, List.map_map, toSuperscript]
  exact congrArg String.ofList (List.map_congr_left fun c _ => raise_lower c)

theorem fromSuperscript_eq_self_iff {text : String} :
    fromSuperscript text = text ↔ ∀ c ∈ text.toList, ¬IsGlyph c := by
  have hlist : fromSuperscript text = text ↔ text.toList.map lower = text.toList.map id := by
    rw [← String.toList_inj, fromSuperscript, String.toList_ofList, List.map_id]
  rw [hlist, List.map_inj_left]
  exact forall₂_congr fun c _ => lower_eq_self_iff

/-- A text of glyphs is raised already. -/
theorem toSuperscript_of_glyphs {text : String} (h : ∀ c ∈ text.toList, IsGlyph c) :
    toSuperscript text = text := by
  have hmap : text.toList.map raise = text.toList.map id :=
    List.map_congr_left fun c hc => raise_glyph (h c hc)
  rw [toSuperscript, hmap, List.map_id, String.ofList_toList]

end Metrology.Text
