import Metrology.Proofs.Expression.Respelling

namespace Metrology.Expression

variable {bs cs ws : List Char}

theorem plain_blank {c : Char} (hc : Text.isBlank c = true) :
    ∃ b, Text.isBlank b = true ∧ ∀ front back,
      plain (front ++ c :: back) = plain front ++ b :: plain back := by
  have hs : Separates c := .inl hc
  obtain ⟨b, hb, happly⟩ := hs.spelledApart
  exact ⟨b, hb, fun front back => happly front back⟩

theorem plain_append_blanks (hw : ∀ c ∈ ws, Text.isBlank c = true) :
    ∃ bs, (∀ b ∈ bs, Text.isBlank b = true) ∧
      (∀ cs, plain (cs ++ ws) = plain cs ++ bs) ∧ ∀ cs, plain (ws ++ cs) = bs ++ plain cs := by
  induction ws with
  | nil => exact ⟨[], by simp, by simp, by simp⟩
  | cons c ws ih =>
    obtain ⟨hc, hws⟩ := List.forall_mem_cons.mp hw
    obtain ⟨b, hb, hspelled⟩ := plain_blank hc
    obtain ⟨bs, hbs, hbehind, hahead⟩ := ih hws
    refine ⟨b :: bs, List.forall_mem_cons.mpr ⟨hb, hbs⟩, fun cs => ?_, fun cs => ?_⟩
    · have hrest := hbehind []
      rw [List.nil_append] at hrest
      rw [hspelled, hrest]
      rfl
    · have hfront := hspelled [] (ws ++ cs)
      rw [hahead] at hfront
      exact hfront

namespace Scanner

theorem run_blanks_ahead (hb : ∀ b ∈ bs, Text.isBlank b = true) (cs : List Char) :
    ({} : Scanner).run (bs ++ cs) = ({} : Scanner).run cs := by
  induction bs with
  | nil => rfl
  | cons b bs ih =>
    obtain ⟨hblank, hbs⟩ := List.forall_mem_cons.mp hb
    rw [List.cons_append, run_skip (step_blank rfl hblank), ih hbs]

theorem Sound.run_blanks_behind {s : Scanner} (hs : s.Sound)
    (hb : ∀ b ∈ bs, Text.isBlank b = true) : s.run (bs ++ [' ']) = s.run [' '] := by
  induction bs with
  | nil => rfl
  | cons b bs ih =>
    obtain ⟨hblank, hbs⟩ := List.forall_mem_cons.mp hb
    have hlast : ∀ d ∈ (bs ++ [' ']), Text.isBlank d = true := by
      intro d hd
      rcases List.mem_append.mp hd with hd | hd
      · exact hbs d hd
      · rw [List.mem_singleton.mp hd]
        decide
    rw [← ih hbs, List.cons_append]
    obtain ⟨d, ds, hd⟩ := List.exists_cons_of_ne_nil (List.append_ne_nil_of_right_ne_nil bs
      (List.cons_ne_nil ' ' []))
    rw [hd] at hlast ⊢
    exact hs.run_blank_blank hblank (hlast d (by simp)) ds

end Scanner

theorem scanRun_ahead (hw : ∀ c ∈ ws, Text.isBlank c = true) (cs : List Char) :
    scanRun (String.ofList (ws ++ cs)) = scanRun (String.ofList cs) := by
  obtain ⟨bs, hb, -, hahead⟩ := plain_append_blanks hw
  unfold scanRun
  rw [plainSpelling_eq, plainSpelling_eq, String.toList_ofList, String.toList_ofList, hahead,
    List.append_assoc, Scanner.run_blanks_ahead hb]

theorem scanRun_behind (hw : ∀ c ∈ ws, Text.isBlank c = true) (cs : List Char) :
    scanRun (String.ofList (cs ++ ws)) = scanRun (String.ofList cs) := by
  obtain ⟨bs, hb, hbehind, -⟩ := plain_append_blanks hw
  have halike : Alike (bs ++ [' ']) [' '] := fun s hs => hs.run_blanks_behind hb
  have hrun := halike.run_eq (plain cs) []
  rw [List.append_nil, List.append_nil] at hrun
  unfold scanRun
  rw [plainSpelling_eq, plainSpelling_eq, String.toList_ofList, String.toList_ofList, hbehind,
    List.append_assoc, hrun]

/-- However many blanks are taken from the front of a text and put behind it, its run is the
same. -/
theorem scanRun_trimmed (text : String) (hw : ∀ c ∈ ws, Text.isBlank c = true) :
    scanRun (String.ofList ((text.toList ++ ws).dropWhile Text.isBlank)) = scanRun text := by
  have hfront : ∀ c ∈ (text.toList ++ ws).takeWhile Text.isBlank, Text.isBlank c = true :=
    fun c hc => List.mem_takeWhile_imp hc
  have hahead := scanRun_ahead hfront ((text.toList ++ ws).dropWhile Text.isBlank)
  rw [List.takeWhile_append_dropWhile, scanRun_behind hw, String.ofList_toList] at hahead
  exact hahead.symm

theorem terms_of_scanRun {text other : String} (h : scanRun text = scanRun other) :
    terms other = (terms text).mapError (·.within other) := by
  unfold terms
  rw [scan_of_scanRun h]
  obtain ⟨ts, failure?⟩ := scan text
  cases failure? with
  | none => rfl
  | some failure => rfl

end Metrology.Expression
