import Mathlib.Data.List.TakeWhile
import Metrology.Text.Character

namespace Metrology.Text

variable {blanks word rest : List Char}

theorem dropWhile_blanks (hb : ∀ c ∈ blanks, isBlank c = true) (rest : List Char) :
    (blanks ++ rest).dropWhile isBlank = rest.dropWhile isBlank :=
  List.dropWhile_append_of_pos hb

theorem solid_of_all (h : word.all (!isBlank ·) = true) : ∀ c ∈ word, isBlank c = false :=
  fun c hc => (Bool.not_eq_true' _).mp (List.all_eq_true.mp h c hc)

/-- Nothing stands behind the word unless there is a gap. -/
theorem firstWord?_laid_out {gap : List Char} (rest : List Char)
    (hb : ∀ c ∈ blanks, isBlank c = true) (hn : word ≠ []) (hw : ∀ c ∈ word, isBlank c = false)
    (hg : ∀ c ∈ gap, isBlank c = true) (hr : gap = [] → rest = []) :
    firstWord? (blanks ++ (word ++ (gap ++ rest))) = some (word, rest.dropWhile isBlank) := by
  have hword : ∀ c ∈ word, (!isBlank c) = true := fun c hc => by rw [hw c hc]; rfl
  have hstart : (word ++ (gap ++ rest)).dropWhile isBlank = word ++ (gap ++ rest) := by
    obtain ⟨c, cs, rfl⟩ := List.exists_cons_of_ne_nil hn
    rw [List.cons_append, List.dropWhile_cons, hw c (by simp)]
    rfl
  have hend : (gap ++ rest).takeWhile (!isBlank ·) = [] ∧
      (gap ++ rest).dropWhile (!isBlank ·) = gap ++ rest := by
    cases gap with
    | nil => simp [hr rfl]
    | cons c cs => simp [hg c (by simp)]
  have htake : (word ++ (gap ++ rest)).takeWhile (!isBlank ·) = word := by
    rw [List.takeWhile_append_of_pos hword, hend.1, List.append_nil]
  have hdrop : (word ++ (gap ++ rest)).dropWhile (!isBlank ·) = gap ++ rest := by
    rw [List.dropWhile_append_of_pos hword, hend.2]
  obtain ⟨c, cs, hc⟩ := List.exists_cons_of_ne_nil (List.append_ne_nil_of_left_ne_nil hn (gap ++ rest))
  rw [firstWord?, dropWhile_blanks hb, hstart]
  rw [hc] at htake hdrop ⊢
  change some (_, _) = _
  rw [htake, hdrop, dropWhile_blanks hg]

theorem firstWord?_append (hn : word ≠ []) (hw : ∀ c ∈ word, isBlank c = false)
    (hr : ∀ c ∈ rest.head?, isBlank c = false) :
    firstWord? (word ++ ' ' :: rest) = some (word, rest) := by
  have hrest : rest.dropWhile isBlank = rest := by
    cases rest with
    | nil => rfl
    | cons c cs => rw [List.dropWhile_cons, hr c rfl]; rfl
  have hgap : ∀ c ∈ [' '], isBlank c = true := List.all_eq_true.mp rfl
  have h : firstWord? ([] ++ (word ++ ([' '] ++ rest))) = some (word, rest.dropWhile isBlank) :=
    firstWord?_laid_out rest (by simp) hn hw hgap (by simp)
  rw [hrest] at h
  exact h

theorem firstWord?_word (hn : word ≠ []) (hw : ∀ c ∈ word, isBlank c = false) :
    firstWord? word = some (word, []) := by
  have h : firstWord? ([] ++ (word ++ ([] ++ []))) = some (word, [].dropWhile isBlank) :=
    firstWord?_laid_out [] (by simp) hn hw (by simp) (by simp)
  rw [List.nil_append, List.nil_append, List.append_nil] at h
  exact h

theorem firstWord?_blanks (hb : ∀ c ∈ blanks, isBlank c = true) : firstWord? blanks = none := by
  have hd : blanks.dropWhile isBlank = [] := List.dropWhile_eq_nil_iff.mpr hb
  rw [firstWord?, hd]

end Metrology.Text
