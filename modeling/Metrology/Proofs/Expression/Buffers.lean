import Metrology.Proofs.Expression.Moves

namespace Metrology.Expression

namespace Scanner

theorem Sound.step {s next : Scanner} (hs : s.Sound) {c : Char} {handed : Option Term}
    (h : s.step c = .ok (next, handed)) : next.Sound := by
  have hreopen (he : s.Ends c) : (reopen false (plainBlank c)).Sound :=
    sound_resume (he.imp_right And.left)
  cases hs.move h with
  | skip => exact hs
  | slash => exact hs.slash
  | letter hl => exact hs.letter hl
  | figure he => exact hs.figure he
  | numerator he => exact hreopen he
  | term he => exact hreopen he

theorem Sound.run {s last : Scanner} (hs : s.Sound) {cs : List Char} {ts : List Term}
    (h : s.run cs = (ts, .ok last)) : last.Sound := by
  induction cs generalizing s ts with
  | nil =>
    cases h
    exact hs
  | cons c cs ih =>
    obtain ⟨next, handed, us, hstep, hrun, -⟩ := run_cons_ok h
    exact ih (hs.step hstep) hrun

/-- A scanner with empty buffers is at a start, but for a slash that it has seen. -/
theorem Sound.eq_start {s : Scanner} (hs : s.Sound) (hp : s.pending = []) :
    s = { inverted := s.inverted } := by
  obtain ⟨hw, hx⟩ := List.append_eq_nil_iff.mp hp
  have hm : s.mode = .symbol := by
    cases hm : s.mode with
    | symbol => rfl
    | exponent => exact absurd hx (hs.mode.mp hm)
  cases s
  simp_all

theorem step_blank_start {s next : Scanner} (hs : s.Sound) {c : Char}
    (hc : Text.isBlank c = true) {handed : Option Term} (h : s.step c = .ok (next, handed)) :
    next = { inverted := next.inverted } := by
  have hb : plainBlank c = ' ' := if_pos hc
  cases hs.move h with
  | skip _ hp => exact hs.eq_start hp
  | slash hd =>
    subst hd
    cases hc
  | letter hl =>
    rw [Text.isLetter_of_isBlank hc] at hl
    cases hl
  | figure he =>
    rw [isExponentChar_of_isBlank hc] at he
    cases he
  | numerator | term =>
    rw [hb]
    rfl

/-- The scanner does not tell one blank from another. -/
theorem step_eq_of_isBlank (s : Scanner) {c d : Char} (hc : Text.isBlank c = true)
    (hd : Text.isBlank d = true) : s.step c = s.step d := by
  simp only [Scanner.step, hc, hd, if_true]

theorem run_concat_eq_of_isBlank (s : Scanner) {c d : Char} (hc : Text.isBlank c = true)
    (hd : Text.isBlank d = true) (cs : List Char) : s.run (cs ++ [c]) = s.run (cs ++ [d]) := by
  have hrun (next : Scanner) : next.run [c] = next.run [d] := by
    simp only [Scanner.run, step_eq_of_isBlank next hc hd]
  simp only [run_append, hrun]

theorem run_concat_blank {s last : Scanner} (hs : s.Sound) {c : Char}
    (hc : Text.isBlank c = true) {cs : List Char} {ts : List Term}
    (h : s.run (cs ++ [c]) = (ts, .ok last)) : last = { inverted := last.inverted } := by
  rw [run_append] at h
  split at h
  · cases h
  · rename_i first mid hfirst
    simp only [Scanner.run] at h
    split at h
    · cases h
    · rename_i next handed hstep
      obtain ⟨-, hlast⟩ := Prod.mk.inj h
      obtain rfl := Except.ok.inj hlast
      exact step_blank_start (hs.run hfirst) hc hstep

end Scanner

end Metrology.Expression
