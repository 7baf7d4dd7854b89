import Metrology.Proofs.Expression.Scanning

namespace Metrology.Expression.Scanner

/-- Whether a character ends what is in the buffers: a blank, or a letter behind an exponent. -/
def Ends (s : Scanner) (c : Char) : Prop :=
  Text.isBlank c = true ∨ (Text.isLetter c = true ∧ s.exponent ≠ [])

/-- What the buffers say about an exponent. It is one if none is written. -/
def HasExponent (s : Scanner) (e : Int) : Prop :=
  (s.exponent = [] ∧ e = 1) ∨ Literal.integer? s.exponent = some e

/-- The scanner that a character leads to, and the term that it completes. -/
inductive Move (s : Scanner) (c : Char) : Scanner → Option Term → Prop
  | skip (blank : Text.isBlank c = true) (idle : s.pending = []) : Move s c s none
  | slash (slash : c = '/') : Move s c { s with inverted := true } none
  | letter (letter : Text.isLetter c = true) (mode : s.mode = .symbol) :
      Move s c { s with symbol := s.symbol ++ [c] } none
  | figure (figure : isExponentChar c = true) :
      Move s c { s with mode := .exponent, exponent := s.exponent ++ [c] } none
  /-- A lone one, in front of which no slash stands. -/
  | numerator (ends : s.Ends c) (alone : s.symbol = []) (one : s.exponent = ['1'])
      (upright : s.inverted = false) : Move s c (reopen false (plainBlank c)) none
  | term (ends : s.Ends c) (named : s.symbol ≠ []) {e : Int} (exponent : s.HasExponent e) :
      Move s c (reopen false (plainBlank c)) (some (s.term e))

variable {s next : Scanner} {c : Char} {handed : Option Term}

theorem move_figure_end (hm : s.mode = .exponent) (hx : s.exponent ≠ [])
    (hc : Text.isBlank c = true ∨ Text.isLetter c = true) (h : s.step c = .ok (next, handed)) :
    s.Move c next handed := by
  have he : s.Ends c := hc.imp_right fun hl => ⟨hl, hx⟩
  rw [step_figure_end hm hx hc] at h
  split at h
  · rename_i hw
    unfold endNumerator at h
    split at h
    · cases h
    split at h
    · cases h
    · rename_i h1 hi
      cases h
      have hu : s.inverted = false := Bool.eq_false_iff.mpr hi
      rw [hu]
      exact .numerator he hw (not_not.mp h1) hu
  · rename_i hw
    unfold endExponent at h
    split at h
    · rename_i e hi
      cases h
      exact .term he hw (.inr hi)
    · cases h

theorem Sound.symbol_ne_nil (hs : s.Sound) (hm : s.mode = .symbol) (hp : s.pending ≠ []) :
    s.symbol ≠ [] := by
  intro hw
  rw [pending, hw, hs.exponent_nil hm] at hp
  exact hp rfl

/-- The step: what a scanner with sound buffers does is one of the moves. -/
theorem Sound.move (hs : s.Sound) (h : s.step c = .ok (next, handed)) : s.Move c next handed := by
  cases hb : Text.isBlank c with
  | true =>
    by_cases hp : s.pending = []
    · rw [step_blank hp hb] at h
      cases h
      exact .skip hb hp
    cases hm : s.mode with
    | symbol =>
      have hw := hs.symbol_ne_nil hm hp
      rw [step_word_end hm hw hb] at h
      cases h
      have hr : reopen false (plainBlank c) = {} := by simp [reopen, plainBlank, hb]
      rw [← hr]
      exact .term (.inl hb) hw (.inl ⟨hs.exponent_nil hm, rfl⟩)
    | exponent => exact move_figure_end hm (hs.mode.mp hm) (.inl hb) h
  | false =>
  cases hl : Text.isLetter c with
  | true =>
    cases hm : s.mode with
    | symbol =>
      rw [step_letter hm hl] at h
      cases h
      exact .letter hl hm
    | exponent => exact move_figure_end hm (hs.mode.mp hm) (.inr hl) h
  | false =>
  cases he : isExponentChar c with
  | true =>
    rw [step_figure he] at h
    cases h
    exact .figure he
  | false =>
    by_cases hd : c = '/'
    · subst hd
      rw [step_slash] at h
      cases h
      exact .slash rfl
    · rw [step_stray s hl he hb hd] at h
      cases h

/-- A run that comes to its end: its first step does, and so does the run of the rest. -/
theorem run_cons_ok {last : Scanner} {cs : List Char} {ts : List Term}
    (h : s.run (c :: cs) = (ts, .ok last)) :
    ∃ next handed us, s.step c = .ok (next, handed) ∧ next.run cs = (us, .ok last) ∧
      ts = handed.toList ++ us := by
  rw [run] at h
  split at h
  · cases h
  · rename_i next handed hstep
    obtain ⟨hts, hlast⟩ := Prod.mk.inj h
    exact ⟨next, handed, (next.run cs).1, hstep, Prod.ext rfl hlast, hts.symm⟩

end Metrology.Expression.Scanner
