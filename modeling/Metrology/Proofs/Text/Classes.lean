import Metrology.Expression.Scanner

namespace Metrology.Text

theorem inRanges_blanks : ∀ n ∈ blanks, inRanges letterRanges n = false := by
  decide +kernel

theorem isLetter_of_isBlank {c : Char} (h : isBlank c = true) : isLetter c = false :=
  inRanges_blanks c.toNat (List.contains_iff_mem.mp h)

theorem isBlank_of_isLetter {c : Char} (h : isLetter c = true) : isBlank c = false := by
  cases hb : isBlank c with
  | false => rfl
  | true =>
    rw [isLetter_of_isBlank hb] at h
    contradiction

theorem letterRanges_low : ∀ r ∈ letterRanges, 0x39 < r.1 := by
  decide +kernel

/-- There are no letters up to the digits. -/
theorem isLetter_of_le {c : Char} (h : c.toNat ≤ 0x39) : isLetter c = false := by
  refine List.any_eq_false.mpr fun r hr => ?_
  have := letterRanges_low r hr
  simp only [Bool.and_eq_true, decide_eq_true_eq]
  omega

theorem isAlpha_range {c : Char} (h : c.isAlpha = true) :
    (0x41 ≤ c.toNat ∧ c.toNat ≤ 0x5A) ∨ (0x61 ≤ c.toNat ∧ c.toNat ≤ 0x7A) := by
  rcases Bool.or_eq_true_iff.mp h with hupper | hlower
  · exact .inl (of_decide_eq_true hupper)
  · obtain ⟨hl, hu⟩ := Bool.and_eq_true_iff.mp hlower
    exact .inr ⟨of_decide_eq_true hl, of_decide_eq_true hu⟩

theorem isLetter_of_isAlpha {c : Char} (h : c.isAlpha = true) : isLetter c = true := by
  rcases isAlpha_range h with hr | hr
  · exact List.any_eq_true.mpr ⟨(0x41, 0x5A), .head _, by simpa using hr⟩
  · exact List.any_eq_true.mpr ⟨(0x61, 0x7A), .tail _ (.head _), by simpa using hr⟩

theorem blanks_apart : ∀ n ∈ blanks, n < 0x2D ∨ 0x39 < n := by
  decide

end Metrology.Text

namespace Metrology.Expression

theorem isExponentChar_range {c : Char} (h : isExponentChar c = true) :
    0x2D ≤ c.toNat ∧ c.toNat ≤ 0x39 := by
  simp only [isExponentChar, Char.isDigit, Bool.or_eq_true, Bool.and_eq_true,
    decide_eq_true_eq, beq_iff_eq] at h
  rcases h with ⟨hl, hu⟩ | rfl
  · exact ⟨Nat.le_trans (by decide) hl, hu⟩
  · decide

theorem isLetter_of_isExponentChar {c : Char} (h : isExponentChar c = true) :
    Text.isLetter c = false :=
  Text.isLetter_of_le (isExponentChar_range h).2

theorem isExponentChar_of_isLetter {c : Char} (h : Text.isLetter c = true) :
    isExponentChar c = false := by
  cases he : isExponentChar c with
  | false => rfl
  | true =>
    rw [isLetter_of_isExponentChar he] at h
    contradiction

theorem isBlank_of_isExponentChar {c : Char} (h : isExponentChar c = true) :
    Text.isBlank c = false := by
  cases hb : Text.isBlank c with
  | false => rfl
  | true =>
    have := Text.blanks_apart c.toNat (List.contains_iff_mem.mp hb)
    have := isExponentChar_range h
    omega

theorem isExponentChar_of_isBlank {c : Char} (h : Text.isBlank c = true) :
    isExponentChar c = false := by
  cases he : isExponentChar c with
  | false => rfl
  | true =>
    rw [isBlank_of_isExponentChar he] at h
    contradiction

end Metrology.Expression
