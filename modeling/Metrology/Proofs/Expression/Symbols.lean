import Metrology.Proofs.Expression.Spelling
import Metrology.Proofs.Text.Canonical.Letters

namespace Metrology.Expression

open Text.Canonical

/-- Whether a word stands in a text, and only bounds stand next to it. -/
structure Stands (w cs : List Char) : Prop where
  nonempty : w ≠ []
  letters : ∀ c ∈ w, Text.isLetter c = true
  placed : ∃ front back, cs = front ++ (w ++ back) ∧ (∀ c ∈ front.getLast?, Bounds c) ∧
    ∀ c ∈ back.head?, Bounds c

/-- A word stands where it did when more comes in front, up to a bound. -/
theorem Stands.behind {w cs : List Char} (h : Stands w cs) {c : Char} (hc : Bounds c)
    (more : List Char) : Stands w (more ++ c :: cs) := by
  obtain ⟨front, back, rfl, hfront, hback⟩ := h.placed
  refine ⟨h.nonempty, h.letters, more ++ c :: front, back, by simp, ?_, hback⟩
  intro d hd
  rw [List.getLast?_append_of_ne_nil _ (by simp)] at hd
  cases front with
  | nil =>
    obtain rfl := Option.some.inj hd
    exact hc
  | cons e front =>
    rw [List.getLast?_cons_cons] at hd
    exact hfront d hd

namespace Scanner

variable {s : Scanner} {c : Char} {cs : List Char} {t : Term} {w : List Char}

/-- The symbol that a step hands out stands in front of what ends it. -/
theorem Sound.stands_symbol (hs : s.Sound) (hn : s.symbol ≠ []) (he : s.Ends c) (cs : List Char) :
    Stands s.symbol (s.pending ++ c :: cs) := by
  refine ⟨hn, hs.letters, [], s.exponent ++ c :: cs, by simp [pending], by simp, ?_⟩
  intro d hd
  cases hx : s.exponent with
  | nil =>
    rw [hx] at hd
    obtain rfl := Option.some.inj hd
    rcases he with hb | ⟨-, hne⟩
    · exact .inl hb
    · exact absurd hx hne
  | cons e x =>
    rw [hx] at hd
    obtain rfl := Option.some.inj hd
    exact .inr (.inl (hs.figures e (by simp [hx])))

/-- What stands in the text behind an ended term, stands behind the term. -/
theorem Sound.stands_rest (hs : s.Sound) (he : s.Ends c)
    (h : Stands w ((reopen false (plainBlank c)).pending ++ cs)) :
    Stands w (s.pending ++ c :: cs) := by
  rcases he with hb | ⟨hl, hx⟩
  · rw [plainBlank, if_pos hb, pending_reopen_blank] at h
    exact h.behind (.inl hb) s.pending
  · rw [plainBlank_letter hl, pending_reopen (ne_blank_of_isLetter hl)] at h
    have hf := hs.figures _ (List.getLast_mem hx)
    have hr := h.behind (.inr (.inl hf)) (s.symbol ++ s.exponent.dropLast)
    have hp : s.pending = s.symbol ++ s.exponent.dropLast ++ [s.exponent.getLast hx] := by
      rw [List.append_assoc, List.dropLast_append_getLast, pending]
    rw [hp]
    simpa using hr

/-- The induction is on the text, move by move. What is pending belongs to it, so that a letter or
a figure that goes into a buffer changes nothing. -/
theorem Sound.stands_of_mem_run (hs : s.Sound) (hl : Laid (s.pending ++ cs))
    (ht : t ∈ (s.run cs).1) : Stands t.symbol.toList (s.pending ++ cs) := by
  induction cs generalizing s with
  | nil => cases ht
  | cons c cs ih =>
    rw [Scanner.run] at ht
    split at ht
    · cases ht
    rename_i next handed hstep
    have hsound := hs.step hstep
    have hrest : Laid (c :: cs) := hl.drop
    cases hs.move hstep with
    | skip hb hp =>
      rw [hp] at hl ⊢
      have h := ih hs (by rw [hp]; exact hrest.tail) ht
      rw [hp] at h
      exact h.behind (.inl hb) []
    | slash hd =>
      subst hd
      have hp := hs.pending_slash hl
      have hnext : Scanner.pending { s with inverted := true } = [] := hp
      have h := ih hsound (by rw [hnext]; exact hrest.tail) ht
      rw [hnext] at h
      rw [hp]
      exact h.behind (.inr (.inr rfl)) []
    | letter _ hm =>
      have hp : Scanner.pending { s with symbol := s.symbol ++ [c] } ++ cs =
          s.pending ++ c :: cs := by
        simp [pending, hs.exponent_nil hm]
      rw [← hp] at hl ⊢
      exact ih hsound hl ht
    | figure =>
      have hp : Scanner.pending { s with mode := .exponent, exponent := s.exponent ++ [c] } ++ cs =
          s.pending ++ c :: cs := by
        simp [pending]
      rw [← hp] at hl ⊢
      exact ih hsound hl ht
    | numerator he =>
      have hnext := laid_resume (he.imp_right And.left) hrest
      exact hs.stands_rest he (ih hsound hnext ht)
    | @term he hn e =>
      rcases List.mem_cons.mp ht with rfl | ht
      · have hw : (s.term e).symbol.toList = s.symbol := String.toList_ofList
        rw [hw]
        exact hs.stands_symbol hn he cs
      · have hnext := laid_resume (he.imp_right And.left) hrest
        exact hs.stands_rest he (ih hsound hnext ht)

end Scanner

theorem scan_terms (text : String) :
    (scan text).terms = (({} : Scanner).run (plain text.toList ++ [' '])).1 := by
  unfold scan
  rw [plainSpelling_eq]
  split
  · rename_i h
    rw [h]
  · rename_i h
    rw [h]

theorem stands_of_mem_scan {text : String} {t : Term} (h : t ∈ (scan text).terms) :
    Stands t.symbol.toList (plain text.toList ++ [' ']) := by
  rw [scan_terms] at h
  have hl := laid_plainSpelling text
  rw [plainSpelling_eq] at hl
  exact (Scanner.sound_start false).stands_of_mem_run hl h

variable {cs front back w word : List Char}

/-- A letter of the spelling is found in the text. -/
theorem exists_letter {c : Char} (hc : Text.isLetter c = true)
    (h : cs.flatMap spelled ++ [' '] = front ++ c :: back) :
    ∃ before after, cs = before ++ c :: after ∧ before.flatMap spelled = front ∧
      after.flatMap spelled ++ [' '] = back := by
  induction cs generalizing front with
  | nil =>
    have hb : c ∈ [' '] := by
      rw [List.flatMap_nil, List.nil_append] at h
      rw [h]
      simp
    rw [List.mem_singleton.mp hb, Text.isLetter_of_le (by decide)] at hc
    cases hc
  | cons d cs ih =>
    rw [List.flatMap_cons, List.append_assoc] at h
    -- The letter stands behind what the first character is spelled as, or is a part of that.
    rcases List.append_eq_append_iff.mp h with ⟨more, hfront, hrest⟩ | ⟨more, hd, hrest⟩
    · obtain ⟨before, after, rfl, rfl, hback⟩ := ih hrest
      exact ⟨d :: before, after, rfl, hfront.symm, hback⟩
    · cases more with
      | nil =>
        rw [List.append_nil] at hd
        obtain ⟨before, after, rfl, hnil, hback⟩ := @ih [] hrest.symm
        refine ⟨d :: before, after, rfl, ?_, hback⟩
        rw [List.flatMap_cons, hnil, List.append_nil, hd]
      | cons e more =>
        obtain ⟨rfl, htail⟩ := List.cons.inj hrest
        have hm : c ∈ spelled d := by simp [hd]
        obtain ⟨rfl, hs⟩ := eq_letter_of_mem_spelled hm hc
        rw [hs] at hd
        obtain ⟨rfl, rfl⟩ : front = [] ∧ more = [] := by
          cases front with
          | nil => exact ⟨rfl, (List.cons.inj hd).2.symm⟩
          | cons x front => simp at hd
        exact ⟨[], cs, rfl, rfl, htail.symm⟩

/-- A word of the spelling is found in the text. -/
theorem exists_word (hn : w ≠ []) (hw : ∀ c ∈ w, Text.isLetter c = true)
    (h : cs.flatMap spelled ++ [' '] = front ++ (w ++ back)) :
    ∃ before word after, cs = before ++ (word ++ after) ∧ before.flatMap spelled = front ∧
      word.flatMap spelled = w ∧ after.flatMap spelled ++ [' '] = back := by
  induction w generalizing cs front with
  | nil => exact absurd rfl hn
  | cons c w ih =>
    have hc := spelled_letter (hw c (by simp))
    obtain ⟨before, after, rfl, rfl, hrest⟩ := exists_letter (hw c (by simp)) h
    cases w with
    | nil => exact ⟨before, [c], after, rfl, rfl, by simp [hc], hrest⟩
    | cons d w =>
      obtain ⟨carets, word, after, rfl, hnil, hword, hback⟩ :=
        @ih _ [] (by simp) (fun e he => hw e (by simp [he])) hrest
      refine ⟨before, c :: (carets ++ word), after, by simp, rfl, ?_, hback⟩
      rw [List.flatMap_cons, List.flatMap_append, hc, hnil, hword]
      rfl

/-- Whether carets stand between two letters that compose. -/
def Interrupted (cs : List Char) : Prop :=
  ∃ a carets b, Text.isLetter a = true ∧ Text.isLetter b = true ∧ compose? a b ≠ none ∧
    carets ≠ [] ∧ (∀ c ∈ carets, c = '^') ∧ a :: (carets ++ [b]) <:+: cs

theorem not_interrupted (h : '^' ∉ cs) : ¬Interrupted cs := by
  rintro ⟨a, carets, b, -, -, -, hne, hc, hi⟩
  obtain ⟨c, carets, rfl⟩ := List.exists_cons_of_ne_nil hne
  obtain rfl := hc c (by simp)
  exact h (hi.mem (by simp))

theorem isLetter_of_mem_spelled (hw : ∀ c ∈ word, c = '^' ∨ Text.isLetter c = true) {d : Char}
    (hd : d ∈ word.flatMap spelled) : Text.isLetter d = true := by
  obtain ⟨c, hc, hd⟩ := List.mem_flatMap.mp hd
  rcases hw c hc with rfl | hl
  · cases hd
  · rw [spelled_letter hl] at hd
    rwa [List.mem_singleton.mp hd]

theorem Interrupted.mono (h : Interrupted w) (hw : w <:+: cs) : Interrupted cs := by
  obtain ⟨a, carets, b, ha, hb, hab, hne, hc, hi⟩ := h
  exact ⟨a, carets, b, ha, hb, hab, hne, hc, hi.trans hw⟩

/-- The letters that a word is spelled by are canonical where the word is. What stands in front are
letters that no caret keeps from the word. -/
theorem normal_spelled (hf : ∀ c ∈ front, Text.isLetter c = true)
    (hw : ∀ c ∈ word, c = '^' ∨ Text.isLetter c = true)
    (hn : normal (front ++ word) = front ++ word) (hi : ¬Interrupted (front ++ word)) :
    normal (front ++ word.flatMap spelled) = front ++ word.flatMap spelled := by
  induction word generalizing front with
  | nil => exact hn
  | cons c word ih =>
    have hword : ∀ d ∈ word, d = '^' ∨ Text.isLetter d = true := fun d hd => hw d (by simp [hd])
    rcases hw c (by simp) with rfl | hc
    · obtain ⟨hfront, hrest⟩ := normal_parts divides_caret hn
      have hinfix : word <:+: front ++ '^' :: word := ⟨front ++ ['^'], [], by simp⟩
      have hspelled := @ih [] (by simp) hword hrest fun h => hi (h.mono hinfix)
      change normal (front ++ word.flatMap spelled) = front ++ word.flatMap spelled
      cases hs : word.flatMap spelled with
      | nil => rwa [List.append_nil]
      | cons b rest =>
        have hb : Text.isLetter b = true := isLetter_of_mem_spelled hword (by simp [hs])
        rw [hs, List.nil_append] at hspelled
        refine normal_append hb hfront hspelled fun a ha => ?_
        by_contra hab
        have hplain : word.flatMap spelled ++ [' '] = [] ++ b :: (rest ++ [' ']) := by
          rw [hs]
          rfl
        obtain ⟨carets, after, rfl, hnil, -⟩ := exists_letter hb hplain
        have hcarets : ∀ c ∈ '^' :: carets, c = '^' := by
          intro c hc
          rcases List.mem_cons.mp hc with rfl | hc
          · rfl
          · exact eq_caret_of_spelled (List.flatMap_eq_nil_iff.mp hnil c hc)
        obtain ⟨more, rfl⟩ := List.getLast?_eq_some_iff.mp ha
        exact hi ⟨a, '^' :: carets, b, hf a (by simp), hb, hab, by simp, hcarets,
          ⟨more, after, by simp⟩⟩
    · rw [List.flatMap_cons, spelled_letter hc, ← List.append_assoc]
      rw [List.append_cons] at hn hi
      refine ih ?_ hword hn hi
      intro d hd
      rcases List.mem_append.mp hd with hd | hd
      · exact hf d hd
      · rwa [List.mem_singleton.mp hd]

/-- A canonical word is spelled by letters that are not canonical, where carets stand between two of
them that compose. -/
theorem normal_spelled_iff (hw : ∀ c ∈ word, c = '^' ∨ Text.isLetter c = true)
    (hn : normal word = word) :
    normal (word.flatMap spelled) = word.flatMap spelled ↔ ¬Interrupted word := by
  constructor
  · rintro hs ⟨a, carets, b, ha, hb, hab, -, hc, front, back, rfl⟩
    have hcarets : carets.flatMap spelled = [] := by
      refine List.flatMap_eq_nil_iff.mpr fun c hm => ?_
      rw [hc c hm]
      rfl
    refine hab (compose?_of_normal hs ha hb ⟨front.flatMap spelled, back.flatMap spelled, ?_⟩)
    simp [spelled_letter ha, spelled_letter hb, hcarets]
  · intro hi
    have hnone : ∀ c ∈ ([] : List Char), Text.isLetter c = true := by simp
    exact normal_spelled hnone hw hn hi

theorem spelled_word (hw : ∀ c ∈ word, c = '^' ∨ Text.isLetter c = true) :
    word.flatMap spelled = word.filter (· ≠ '^') := by
  induction word with
  | nil => rfl
  | cons c word ih =>
    have hrest := ih fun d hd => hw d (by simp [hd])
    rw [List.flatMap_cons, hrest]
    rcases hw c (by simp) with rfl | hc
    · rfl
    · have hne : c ≠ '^' := by
        rintro rfl
        rw [signs_apart (by simp)] at hc
        cases hc
      rw [spelled_letter hc, List.filter_cons_of_pos (by simpa using hne)]
      rfl

/-- What stands behind a bound is canonical. -/
theorem normal_behind (hn : normal (front ++ cs) = front ++ cs)
    (hb : ∀ c ∈ (front.flatMap spelled).getLast?, Bounds c) : normal cs = cs := by
  cases List.eq_nil_or_concat front with
  | inl hnil =>
    rw [hnil] at hn
    exact hn
  | inr hlast =>
    obtain ⟨more, d, rfl⟩ := hlast
    rw [List.concat_eq_append] at hn hb
    have hd : ∃ g, Divides d g := by
      refine divides_of_bounds fun hne => ⟨_, List.getLast_mem hne, hb _ ?_⟩
      rw [List.flatMap_append, List.flatMap_singleton, List.getLast?_append_of_ne_nil _ hne]
      exact List.getLast?_eq_some_getLast hne
    obtain ⟨g, hg⟩ := hd
    rw [List.append_assoc] at hn
    exact (normal_parts hg hn).2

/-- What stands in front of a bound is canonical. -/
theorem normal_ahead (hn : normal (cs ++ back) = cs ++ back)
    (hb : ∀ c ∈ (back.flatMap spelled ++ [' ']).head?, Bounds c) : normal cs = cs := by
  cases back with
  | nil =>
    rw [List.append_nil] at hn
    exact hn
  | cons d back =>
    have hd : ∃ g, Divides d g := by
      refine divides_of_bounds fun hne => ?_
      obtain ⟨e, es, he⟩ := List.exists_cons_of_ne_nil hne
      refine ⟨e, by simp [he], hb e ?_⟩
      rw [List.flatMap_cons, he]
      rfl
    obtain ⟨g, hg⟩ := hd
    exact (normal_parts hg hn).1

/-- A word that stands in the spelling of a canonical text is a part of the text, but for carets, and
the part is canonical. -/
theorem Stands.exists_part (h : Stands w (cs.flatMap spelled ++ [' '])) (hc : normal cs = cs) :
    ∃ word, word <:+: cs ∧ (∀ c ∈ word, c = '^' ∨ Text.isLetter c = true) ∧
      word.flatMap spelled = w ∧ normal word = word := by
  obtain ⟨front, back, hplain, hfront, hback⟩ := h.placed
  obtain ⟨before, word, after, rfl, rfl, rfl, rfl⟩ := exists_word h.nonempty h.letters hplain
  have hword : normal word = word := normal_ahead (normal_behind hc hfront) hback
  refine ⟨word, ⟨before, after, by simp⟩, fun c hcw => ?_, rfl, hword⟩
  cases hs : spelled c with
  | nil => exact .inl (eq_caret_of_spelled hs)
  | cons d ds =>
    have hd : d ∈ spelled c := by simp [hs]
    have hl := h.letters d (List.mem_flatMap.mpr ⟨c, hcw, hd⟩)
    rw [(eq_letter_of_mem_spelled hd hl).1]
    exact .inr hl

/-- Every symbol is a part of the canonical text without its carets, and is canonical exactly if none
of these stand between letters that compose. -/
theorem symbolKey_of_mem_scan {text : String} {t : Term} (h : t ∈ (scan text).terms) :
    ∃ word, word <:+: (symbolKey text).toList ∧ t.symbol.toList = word.filter (· ≠ '^') ∧
      (symbolKey t.symbol = t.symbol ↔ ¬Interrupted word) := by
  obtain ⟨word, hinfix, hw, hspelled, hn⟩ := (stands_of_mem_scan h).exists_part (normal_normal _)
  refine ⟨word, ?_, ?_, ?_⟩
  · rwa [symbolKey, toList_canonical]
  · rw [← hspelled, spelled_word hw]
  · rw [← normal_spelled_iff hw hn, hspelled, symbolKey, ← toList_canonical, String.toList_inj]

end Metrology.Expression
