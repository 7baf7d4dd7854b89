import Metrology.Proofs.Expression.Buffers

namespace Metrology.Expression

/-- The letters of the symbols of some terms. -/
def symbolLetters (ts : List Term) : List Char :=
  ts.flatMap (·.symbol.toList)

theorem symbolLetters_append (ts us : List Term) :
    symbolLetters (ts ++ us) = symbolLetters ts ++ symbolLetters us :=
  List.flatMap_append

namespace Scanner

variable {s next last : Scanner} {c : Char} {handed : Option Term} {cs : List Char}
  {t : Term} {ts : List Term}

theorem toList_symbol_term (s : Scanner) (e : Int) : (s.term e).symbol.toList = s.symbol :=
  String.toList_ofList

theorem Move.symbol_ne_nil (h : s.Move c next handed) (ht : t ∈ handed) :
    t.symbol.toList ≠ [] := by
  cases h with
  | skip | slash | letter | figure | numerator => cases ht
  | term _ named =>
    obtain rfl := Option.some.inj ht
    rwa [toList_symbol_term]

/-- A blank that ends a term is lost, and a letter opens the next symbol. -/
theorem Ends.letters (h : s.Ends c) (b : Bool) :
    [c].filter Text.isLetter = (reopen b (plainBlank c)).symbol := by
  rcases h with hb | ⟨hl, -⟩
  · simp [reopen, plainBlank, hb, Text.isLetter_of_isBlank hb]
  · simp [reopen, plainBlank_letter hl, hl, ne_blank_of_isLetter hl]

/-- A letter goes into the symbol, and a symbol goes into the term that is handed out. -/
theorem Move.letters (h : s.Move c next handed) :
    s.symbol ++ [c].filter Text.isLetter = symbolLetters handed.toList ++ next.symbol := by
  cases h with
  | skip blank => simp [symbolLetters, Text.isLetter_of_isBlank blank]
  | slash slash =>
    have hl : Text.isLetter c = false := by
      rw [slash]
      exact Text.isLetter_of_le (by decide)
    simp [symbolLetters, hl]
  | letter letter => simp [symbolLetters, letter]
  | figure figure => simp [symbolLetters, isLetter_of_isExponentChar figure]
  | numerator ends alone =>
    rw [ends.letters false, alone]
    rfl
  | @term ends named e =>
    have hw : symbolLetters [s.term e] = s.symbol := by
      rw [symbolLetters, List.flatMap_singleton, toList_symbol_term]
    rw [ends.letters false, Option.toList_some, hw]

/-- A run hands out no term without a symbol, however it ends. -/
theorem Sound.symbol_ne_nil_of_mem_run (hs : s.Sound) (ht : t ∈ (s.run cs).1) :
    t.symbol.toList ≠ [] := by
  induction cs generalizing s with
  | nil => cases ht
  | cons c cs ih =>
    rw [Scanner.run] at ht
    split at ht
    · cases ht
    · rename_i next handed hstep
      rcases List.mem_append.mp ht with hm | hm
      · exact (hs.move hstep).symbol_ne_nil (Option.mem_toList.mp hm)
      · exact ih (hs.step hstep) hm

theorem Sound.letters_run (hs : s.Sound) (h : s.run cs = (ts, .ok last)) :
    s.symbol ++ cs.filter Text.isLetter = symbolLetters ts ++ last.symbol := by
  induction cs generalizing s ts with
  | nil =>
    cases h
    simp [symbolLetters]
  | cons c cs ih =>
    obtain ⟨next, handed, us, hstep, hrun, rfl⟩ := run_cons_ok h
    have hmove := (hs.move hstep).letters
    have hrest := ih (hs.step hstep) hrun
    calc s.symbol ++ (c :: cs).filter Text.isLetter
        = (s.symbol ++ [c].filter Text.isLetter) ++ cs.filter Text.isLetter := by
          rw [List.append_assoc, ← List.filter_append, List.singleton_append]
      _ = symbolLetters handed.toList ++ (next.symbol ++ cs.filter Text.isLetter) := by
          rw [hmove, List.append_assoc]
      _ = symbolLetters (handed.toList ++ us) ++ last.symbol := by
          rw [hrest, symbolLetters_append, List.append_assoc]

/-- Whether a scanner is between two terms. -/
structure Idle (s : Scanner) : Prop where
  mode : s.mode = .symbol
  symbol : s.symbol = []
  exponent : s.exponent = []

theorem idle_start (b : Bool) : Idle { inverted := b } :=
  ⟨rfl, rfl, rfl⟩

theorem idle_of_run_concat_blank (hc : Text.isBlank c = true)
    (h : ({} : Scanner).run (cs ++ [c]) = (ts, .ok last)) : last.Idle := by
  rw [run_concat_blank (sound_start false) hc h]
  exact idle_start _

/-- What a scanner has made of the front of a text, with so much of the text still to come. -/
structure Holds (front back : List Char) (ts : List Term) (s : Scanner) : Prop where
  sound : s.Sound
  named : ∀ t ∈ ts, t.symbol.toList ≠ []
  letters : front.filter Text.isLetter = symbolLetters ts ++ s.symbol
  slash : ∀ rest, back = '/' :: rest → s.Idle
  ended : back = [] → s.Idle

/-- A slash stands behind a blank, which has emptied the buffers, or is the first of all. -/
theorem idle_before_slash {front rest : List Char} (hl : Laid (front ++ '/' :: rest))
    (h : ({} : Scanner).run front = (ts, .ok s)) : s.Idle := by
  rcases List.eq_nil_or_concat front with rfl | ⟨before, c, rfl⟩
  · cases h
    exact idle_start false
  · rw [List.concat_eq_append] at hl h
    have hc : c = ' ' :=
      (List.isChain_append.mp hl.spaced).2.2 c (by simp) '/' rfl rfl
    subst hc
    exact idle_of_run_concat_blank (by decide) h

theorem holds_of_run {front back : List Char} (hl : Laid (front ++ back))
    (hb : ∃ cs, front ++ back = cs ++ [' ']) (h : ({} : Scanner).run front = (ts, .ok s)) :
    Holds front back ts s where
  sound := (sound_start false).run h
  named t ht := by
    have hr : t ∈ (({} : Scanner).run front).1 := by rwa [h]
    exact (sound_start false).symbol_ne_nil_of_mem_run hr
  letters := (sound_start false).letters_run h
  slash rest hr := by
    subst hr
    exact idle_before_slash hl h
  ended hn := by
    subst hn
    obtain ⟨cs, hcs⟩ := hb
    rw [List.append_nil] at hcs
    rw [hcs] at h
    exact idle_of_run_concat_blank (by decide) h

end Scanner

/-- After every character that the scanner has taken in without a failure, it is in an exponent
exactly if it has begun one, its buffers hold letters and exponent characters, and no letter is lost.
It is between two terms wherever a slash comes, so that the slash inverts none of the terms before
it, and it is so at the end of the text. No term is without a symbol, not even in a scan that
fails. -/
theorem holds_after_every_character (text : String) :
    (∀ front back ts s, (plainSpelling text).toList ++ [' '] = front ++ back →
      ({} : Scanner).run front = (ts, .ok s) → Scanner.Holds front back ts s) ∧
    ∀ t ∈ (scan text).terms, t.symbol.toList ≠ [] := by
  refine ⟨fun front back ts s he h => ?_, fun t ht => ?_⟩
  · have hl := laid_plainSpelling text
    rw [he] at hl
    exact Scanner.holds_of_run hl ⟨_, he.symm⟩ h
  · have hr : t ∈ (({} : Scanner).run ((plainSpelling text).toList ++ [' '])).1 := by
      unfold scan at ht
      split at ht <;> rename_i h <;> rwa [h]
    exact (Scanner.sound_start false).symbol_ne_nil_of_mem_run hr

/-- In front of the slash of a rate, and in the middle of the exponent behind it. -/
theorem holds_after_every_character_rate :
    (∃ s, ({} : Scanner).run "kg2 ".toList = ([⟨"kg", 2, false⟩], .ok s) ∧
      Scanner.Holds "kg2 ".toList "/s-1 ".toList [⟨"kg", 2, false⟩] s ∧ s.Idle) ∧
    ∃ s, ({} : Scanner).run "kg2 /s-".toList = ([⟨"kg", 2, false⟩], .ok s) ∧
      Scanner.Holds "kg2 /s-".toList "1 ".toList [⟨"kg", 2, false⟩] s ∧ s.inverted = true := by
  have hplain : (plainSpelling "kg²/s⁻¹").toList ++ [' '] = "kg2 /s-1 ".toList := by
    decide +kernel
  obtain ⟨hholds, -⟩ := holds_after_every_character "kg²/s⁻¹"
  have hfront : ({} : Scanner).run "kg2 ".toList = ([⟨"kg", 2, false⟩], .ok {}) := by
    decide +kernel
  have hmiddle : ({} : Scanner).run "kg2 /s-".toList =
      ([⟨"kg", 2, false⟩], .ok ⟨.exponent, ['s'], ['-'], true⟩) := by
    decide +kernel
  have h1 := hholds "kg2 ".toList "/s-1 ".toList _ _ hplain hfront
  have h2 := hholds "kg2 /s-".toList "1 ".toList _ _ hplain hmiddle
  exact ⟨⟨_, hfront, h1, h1.slash _ rfl⟩, _, hmiddle, h2, rfl⟩

end Metrology.Expression
