import Metrology.Proofs.Expression.Juxtaposition
import Metrology.Proofs.Text.Canonical.Parts

namespace Metrology.Expression

open Text.Canonical

/-- The same text may be spelled from its canonical form. -/
theorem plain_normal (cs : List Char) : plain (normal cs) = plain cs := by
  rw [plain, normal_normal]
  rfl

/-- The ways in which a character can be spelled. -/
inductive Spelling (c : Char) : List Char → Prop
  | sign (h : c ∈ ['*', '·', '⋅']) : Spelling c [' ']
  | caret (h : c = '^') : Spelling c []
  | slash (h : c = '/') : Spelling c [' ', '/']
  | glyph {d : Char} (h : (d, c) ∈ Text.glyphs) : Spelling c [d]
  | same : Spelling c [c]

theorem glyphs_spelled :
    ∀ pair ∈ Text.glyphs, spelled pair.2 = [pair.1] ∧ spelled pair.1 = [pair.1] := by
  decide

/-- A glyph stands for an exponent character. -/
theorem glyphs_plain : ∀ pair ∈ Text.glyphs, isExponentChar pair.1 = true := by
  decide

theorem spelled_cases (c : Char) : Spelling c (spelled c) := by
  rcases Text.lower_cases c with ⟨pair, hm, rfl, -⟩ | ⟨-, hl⟩
  · rw [(glyphs_spelled pair hm).1]
    exact .glyph hm
  · rw [spelled, hl, respell.eq_def]
    split
    · exact .sign (by decide)
    · exact .sign (by decide)
    · exact .sign (by decide)
    · exact .caret rfl
    · exact .slash rfl
    · exact .same

theorem spelled_letter {c : Char} (h : Text.isLetter c = true) : spelled c = [c] := by
  rw [spelled, lower_letter h, respell_letter h]

/-- What is not spelled is a caret. -/
theorem eq_caret_of_spelled {c : Char} (h : spelled c = []) : c = '^' := by
  have hc := spelled_cases c
  rw [h] at hc
  cases hc
  assumption

/-- Nothing but a slash is spelled as one. -/
theorem eq_slash_of_mem_spelled {c : Char} (h : '/' ∈ spelled c) : c = '/' := by
  have hc := spelled_cases c
  generalize spelled c = ds at h hc
  cases hc with
  | sign => simp at h
  | caret => cases h
  | slash hs => exact hs
  | glyph hg =>
    have he := glyphs_plain _ hg
    rw [← List.mem_singleton.mp h] at he
    cases he
  | same => exact (List.mem_singleton.mp h).symm

theorem slash_not_mem_plain {cs : List Char} (h : '/' ∉ cs) : '/' ∉ plain cs := by
  intro hm
  obtain ⟨c, hc, hs⟩ := List.mem_flatMap.mp hm
  obtain rfl := eq_slash_of_mem_spelled hs
  exact h (underived_slash.mem_of_mem_normal (by decide) hc)

/-- A letter is spelled as itself, and nothing else is. -/
theorem eq_letter_of_mem_spelled {c d : Char} (h : d ∈ spelled c) (hd : Text.isLetter d = true) :
    c = d ∧ spelled c = [d] := by
  have hc := spelled_cases c
  generalize spelled c = ds at h hc
  cases hc with
  | sign =>
    rw [List.mem_singleton.mp h, Text.isLetter_of_le (by decide)] at hd
    cases hd
  | caret => cases h
  | slash =>
    have hle : d.toNat ≤ 0x39 := by
      rcases List.mem_pair.mp h with rfl | rfl <;> decide
    rw [Text.isLetter_of_le hle] at hd
    cases hd
  | glyph hg =>
    rw [List.mem_singleton.mp h, isLetter_of_isExponentChar (glyphs_plain _ hg)] at hd
    cases hd
  | same =>
    obtain rfl := List.mem_singleton.mp h
    exact ⟨rfl, rfl⟩

/-- A character that may stand next to a word of an expression. -/
def Bounds (c : Char) : Prop :=
  Text.isBlank c = true ∨ isExponentChar c = true ∨ c = '/'

theorem divides_caret : Divides '^' '^' :=
  divides_of_check (by decide) (by decide) (by decide +kernel)

theorem glyphs_plain_divide : ∀ pair ∈ Text.glyphs, expand 3 pair.1 = [pair.1] ∧
    combiningClass pair.1 = 0 ∧ composesNever pair.1.toNat = true := by
  decide +kernel

theorem exists_glyph {c : Char} (h : isExponentChar c = true) :
    ∃ pair ∈ Text.glyphs, pair.1 = c := by
  obtain ⟨⟨pair, hp, hr⟩, hl, hs⟩ := raise_exponentChar h
  have hc : spelled pair.2 = [c] := by rw [spelled, hr, hl, hs]
  rw [(glyphs_spelled pair hp).1] at hc
  exact ⟨pair, hp, List.singleton_inj.mp hc⟩

theorem divides_exponentChar {c : Char} (h : isExponentChar c = true) : Divides c c := by
  obtain ⟨pair, hp, rfl⟩ := exists_glyph h
  obtain ⟨he, hb, hn⟩ := glyphs_plain_divide pair hp
  exact divides_of_check he hb hn

/-- What is spelled as a bound, or not at all, divides. -/
theorem divides_of_bounds {c : Char} (h : spelled c ≠ [] → ∃ d ∈ spelled c, Bounds d) :
    ∃ g, Divides c g := by
  have hc := spelled_cases c
  generalize spelled c = ds at h hc
  cases hc with
  | sign hs => exact ⟨c, divides_sign (List.mem_append_left ['/'] hs)⟩
  | caret hs =>
    subst hs
    exact ⟨'^', divides_caret⟩
  | slash hs =>
    subst hs
    exact ⟨'/', divides_sign (by decide)⟩
  | glyph hg => exact ⟨c, divides_glyph hg⟩
  | same =>
    obtain ⟨d, hd, hb⟩ := h (by simp)
    obtain rfl := List.mem_singleton.mp hd
    rcases hb with hb | he | rfl
    · obtain ⟨g, -, hg⟩ := divides_blank hb
      exact ⟨g, hg⟩
    · exact ⟨d, divides_exponentChar he⟩
    · exact ⟨'/', divides_sign (by decide)⟩

end Metrology.Expression
