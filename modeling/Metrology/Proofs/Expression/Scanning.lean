import Metrology.Proofs.Expression.Reading

namespace Metrology.Expression

/-- A run of exponent characters has no plus sign, so that a minus sign is the only one. -/
theorem splitSign_figure {x : List Char} (hx : ∀ c ∈ x, isExponentChar c = true) :
    (∃ digits, x = '-' :: digits ∧ Literal.splitSign x = (true, digits)) ∨
      (x.head? ≠ some '-' ∧ Literal.splitSign x = (false, x)) := by
  cases x with
  | nil => exact .inr ⟨by simp, rfl⟩
  | cons c x =>
    by_cases hc : c = '-'
    · subst hc
      exact .inl ⟨x, rfl, rfl⟩
    · refine .inr ⟨by simpa using hc, ?_⟩
      have hp : c ≠ '+' := by
        rintro rfl
        exact absurd (hx '+' (by simp)) (by decide)
      rw [Literal.splitSign.eq_def]
      split <;> simp_all

theorem integer?_of_splitSign {x digits : List Char} {negative : Bool}
    (h : Literal.splitSign x = (negative, digits)) {e : Int} :
    Literal.integer? x = some e ↔
      digits ≠ [] ∧ (∀ c ∈ digits, c.isDigit = true) ∧ digits.length ≤ Literal.digitLimit ∧
        e = Literal.applySign negative (Nat.ofDigitChars 10 digits 0) := by
  simp only [Literal.integer?, h, Literal.natural?, List.all_eq_true]
  constructor
  · intro he
    split at he
    · split at he
      · rename_i hl hd
        exact ⟨hd.1, hd.2, hl, (Option.some.inj he).symm⟩
      · simp at he
    · simp at he
  · rintro ⟨hn, hd, hl, rfl⟩
    rw [if_pos hl, if_pos ⟨hn, hd⟩]
    rfl

theorem integer?_iff {x : List Char} (hx : ∀ c ∈ x, isExponentChar c = true) {e : Int} :
    Literal.integer? x = some e ↔ Denotes x e := by
  rcases splitSign_figure hx with ⟨digits, rfl, hs⟩ | ⟨hh, hs⟩
  · rw [integer?_of_splitSign hs]
    constructor
    · rintro ⟨hn, hd, hl, he⟩
      exact ⟨digits, hn, hd, hl, .inr ⟨rfl, he⟩⟩
    · rintro ⟨ds, hn, hd, hl, ⟨rfl, -⟩ | ⟨h, he⟩⟩
      · exact absurd (hd '-' (by simp)) (by decide)
      · obtain ⟨-, rfl⟩ := List.cons.inj h
        exact ⟨hn, hd, hl, he⟩
  · rw [integer?_of_splitSign hs]
    constructor
    · rintro ⟨hn, hd, hl, he⟩
      exact ⟨x, hn, hd, hl, .inl ⟨rfl, he⟩⟩
    · rintro ⟨ds, hn, hd, hl, ⟨rfl, he⟩ | ⟨rfl, -⟩⟩
      · exact ⟨hn, hd, hl, he⟩
      · exact absurd rfl hh

namespace Scanner

/-- The buffers hold what their names say, and the scanner is in an exponent exactly if it has
begun one. -/
structure Sound (s : Scanner) : Prop where
  mode : s.mode = .exponent ↔ s.exponent ≠ []
  letters : ∀ c ∈ s.symbol, Text.isLetter c = true
  figures : ∀ c ∈ s.exponent, isExponentChar c = true

/-- The characters taken in since the last term. -/
def pending (s : Scanner) : List Char :=
  s.symbol ++ s.exponent

theorem Sound.exponent_nil {s : Scanner} (hs : s.Sound) (hm : s.mode = .symbol) :
    s.exponent = [] := by
  by_contra hn
  rw [hs.mode.mpr hn] at hm
  contradiction

theorem sound_start (b : Bool) : Sound { inverted := b } :=
  ⟨by simp, by simp, by simp⟩

theorem sound_reopen {c : Char} (h : c = ' ' ∨ Text.isLetter c = true) (b : Bool) :
    (reopen b c).Sound := by
  refine ⟨by simp [reopen], ?_, by simp [reopen]⟩
  intro d hd
  by_cases hc : c = ' '
  · simp [reopen, hc] at hd
  · simp only [reopen, if_neg hc, List.mem_singleton] at hd
    subst hd
    exact h.resolve_left hc

theorem pending_reopen_blank (b : Bool) : (reopen b ' ').pending = [] := rfl

theorem pending_reopen {c : Char} (h : c ≠ ' ') (b : Bool) : (reopen b c).pending = [c] := by
  simp [reopen, pending, h]

theorem step_blank {s : Scanner} (hp : s.pending = []) {c : Char} (hc : Text.isBlank c = true) :
    s.step c = .ok (s, none) := by
  obtain ⟨hw, hx⟩ := List.append_eq_nil_iff.mp hp
  simp [step, hc, hw, hx]

theorem step_slash (s : Scanner) :
    s.step '/' = .ok ({ s with inverted := true }, none) := by
  have hb : Text.isBlank '/' = false := by decide
  simp [step, hb]

theorem step_letter {s : Scanner} (hm : s.mode = .symbol) {c : Char}
    (hc : Text.isLetter c = true) :
    s.step c = .ok ({ s with symbol := s.symbol ++ [c] }, none) := by
  have hb := Text.isBlank_of_isLetter hc
  have hs : c ≠ ' ' := by rintro rfl; exact absurd hb (by decide)
  have hd : c ≠ '/' := by rintro rfl; rw [Text.isLetter_of_le (by decide)] at hc; contradiction
  simp [step, stepSymbol, hb, hs, hd, hm, hc]

theorem step_figure {s : Scanner} {c : Char} (hc : isExponentChar c = true) :
    s.step c = .ok ({ s with mode := .exponent, exponent := s.exponent ++ [c] }, none) := by
  have hb := isBlank_of_isExponentChar hc
  have hl := isLetter_of_isExponentChar hc
  have hs : c ≠ ' ' := by rintro rfl; exact absurd hb (by decide)
  have hd : c ≠ '/' := by rintro rfl; exact absurd hc (by decide)
  cases hm : s.mode with
  | symbol => simp [step, stepSymbol, hb, hs, hd, hm, hc, hl]
  | exponent => cases s; simp_all [step, stepExponent]

theorem step_stray (s : Scanner) {c : Char} (hl : Text.isLetter c = false)
    (he : isExponentChar c = false) (hb : Text.isBlank c = false) (hd : c ≠ '/') :
    s.step c = .error (.fault (.unexpected c)) := by
  have hs : c ≠ ' ' := by rintro rfl; exact absurd hb (by decide)
  cases hm : s.mode with
  | symbol => simp [step, stepSymbol, hl, he, hb, hd, hs, hm]
  | exponent => simp [step, stepExponent, hl, he, hb, hd, hs, hm]

/-- A blank ends a symbol that has no exponent. -/
theorem step_word_end {s : Scanner} (hm : s.mode = .symbol) (hw : s.symbol ≠ []) {c : Char}
    (hc : Text.isBlank c = true) : s.step c = .ok ({}, some (s.term 1)) := by
  have hl : Text.isLetter ' ' = false := Text.isLetter_of_le (by decide)
  have he : isExponentChar ' ' = false := by decide
  simp [step, stepSymbol, hc, hw, hm, hl, he]

/-- What is left of a character that ends an exponent. -/
def plainBlank (c : Char) : Char :=
  if Text.isBlank c then ' ' else c

/-- A blank ends an exponent, and so does the letter that opens the next symbol. -/
theorem step_figure_end {s : Scanner} (hm : s.mode = .exponent) (hx : s.exponent ≠ []) {c : Char}
    (hc : Text.isBlank c = true ∨ Text.isLetter c = true) :
    s.step c = if s.symbol = [] then s.endNumerator (plainBlank c)
      else s.endExponent (plainBlank c) := by
  rcases hc with hb | hl
  · have he : isExponentChar ' ' = false := by decide
    simp [step, stepExponent, plainBlank, hb, hx, hm, he]
  · have hb := Text.isBlank_of_isLetter hl
    have he := isExponentChar_of_isLetter hl
    have hs : c ≠ ' ' := by rintro rfl; exact absurd hb (by decide)
    have hd : c ≠ '/' := by
      rintro rfl
      rw [Text.isLetter_of_le (by decide)] at hl
      contradiction
    simp [step, stepExponent, plainBlank, hb, hl, he, hs, hd, hm]

theorem ne_blank_of_isLetter {c : Char} (hc : Text.isLetter c = true) : c ≠ ' ' := by
  rintro rfl
  rw [Text.isLetter_of_le (by decide)] at hc
  contradiction

theorem plainBlank_letter {c : Char} (hc : Text.isLetter c = true) : plainBlank c = c :=
  if_neg (by simp [Text.isBlank_of_isLetter hc])

theorem startsFigure_end {c : Char} (hc : Text.isBlank c = true ∨ Text.isLetter c = true)
    (cs : List Char) : Lexeme.startsFigure (c :: cs) = false := by
  rcases hc with h | h
  · exact isExponentChar_of_isBlank h
  · exact isExponentChar_of_isLetter h

theorem Sound.letter {s : Scanner} (hs : s.Sound) {c : Char}
    (hc : Text.isLetter c = true) : Sound { s with symbol := s.symbol ++ [c] } := by
  refine ⟨hs.mode, ?_, hs.figures⟩
  intro d hd
  rcases List.mem_append.mp hd with h | h
  · exact hs.letters d h
  · rwa [List.mem_singleton.mp h]

theorem Sound.figure {s : Scanner} (hs : s.Sound) {c : Char} (hc : isExponentChar c = true) :
    Sound { s with mode := .exponent, exponent := s.exponent ++ [c] } := by
  refine ⟨by simp, hs.letters, ?_⟩
  intro d hd
  rcases List.mem_append.mp hd with h | h
  · exact hs.figures d h
  · rwa [List.mem_singleton.mp h]

theorem Sound.slash {s : Scanner} (hs : s.Sound) : Sound { s with inverted := true } :=
  ⟨hs.mode, hs.letters, hs.figures⟩

theorem sound_resume {c : Char} (hc : Text.isBlank c = true ∨ Text.isLetter c = true) :
    (reopen false (plainBlank c)).Sound := by
  apply sound_reopen
  rcases hc with hb | hl
  · exact .inl (if_pos hb)
  · exact .inr (by rwa [plainBlank_letter hl])

/-- Whether a run comes to its end with no slash left over, and has handed out these terms. -/
def Accepts (r : List Term × Except Stop Scanner) (ts : List Term) : Prop :=
  r.1 = ts ∧ ∃ last, r.2 = .ok last ∧ last.inverted = false

theorem accepts_nil {s : Scanner} {ts : List Term} :
    Accepts (s.run []) ts ↔ s.inverted = false ∧ ts = [] := by
  constructor
  · rintro ⟨rfl, last, hl, hi⟩
    cases hl
    exact ⟨hi, rfl⟩
  · rintro ⟨hi, rfl⟩
    exact ⟨rfl, s, rfl, hi⟩

theorem accepts_skip {s next : Scanner} {c : Char} (h : s.step c = .ok (next, none))
    {cs : List Char} {ts : List Term} :
    Accepts (s.run (c :: cs)) ts ↔ Accepts (next.run cs) ts := by
  simp [run, h, Accepts]

theorem accepts_hand {s next : Scanner} {c : Char} {t : Term}
    (h : s.step c = .ok (next, some t)) {cs : List Char} {ts : List Term} :
    Accepts (s.run (c :: cs)) ts ↔ ∃ rest, Accepts (next.run cs) rest ∧ ts = t :: rest := by
  simp only [run, h, Accepts, Option.toList_some, List.singleton_append]
  constructor
  · rintro ⟨rfl, hl⟩
    exact ⟨_, ⟨rfl, hl⟩, rfl⟩
  · rintro ⟨rest, ⟨rfl, hl⟩, rfl⟩
    exact ⟨rfl, hl⟩

theorem accepts_stop {s : Scanner} {c : Char} {stop : Stop} (h : s.step c = .error stop)
    {cs : List Char} {ts : List Term} : ¬Accepts (s.run (c :: cs)) ts := by
  simp [run, h, Accepts]

/-- How a plain spelling with a blank at its end is laid out: each slash stands behind a blank. -/
structure Laid (cs : List Char) : Prop where
  spaced : cs.IsChain fun a b => b = '/' → a = ' '
  ended : ∀ c ∈ cs.getLast?, Text.isBlank c = true

theorem Laid.drop {front cs : List Char} (h : Laid (front ++ cs)) : Laid cs := by
  refine ⟨(List.isChain_append.mp h.spaced).2.1, fun c hc => h.ended c ?_⟩
  cases cs with
  | nil => simp at hc
  | cons d cs => rwa [List.getLast?_append_of_ne_nil _ (by simp)]

theorem Laid.tail {c : Char} {cs : List Char} (h : Laid (c :: cs)) : Laid cs := by
  have hc : Laid ([c] ++ cs) := h
  exact hc.drop

theorem laid_resume {c : Char} (hc : Text.isBlank c = true ∨ Text.isLetter c = true)
    {cs : List Char} (h : Laid (c :: cs)) :
    Laid ((reopen false (plainBlank c)).pending ++ cs) := by
  rcases hc with hb | hl
  · rw [plainBlank, if_pos hb, pending_reopen_blank]
    exact h.tail
  · rwa [plainBlank_letter hl, pending_reopen (ne_blank_of_isLetter hl)]

/-- What is pending holds neither a blank nor a slash. -/
theorem Sound.mem_pending {s : Scanner} (hs : s.Sound) {c : Char} (hc : c ∈ s.pending) :
    Text.isBlank c = false := by
  rcases List.mem_append.mp hc with h | h
  · exact Text.isBlank_of_isLetter (hs.letters c h)
  · exact isBlank_of_isExponentChar (hs.figures c h)

/-- So nothing is pending at the end of a text, -/
theorem Sound.pending_end {s : Scanner} (hs : s.Sound) (h : Laid s.pending) :
    s.pending = [] := by
  by_contra hn
  have hl := List.getLast?_eq_some_getLast hn
  have hb := h.ended _ hl
  rw [hs.mem_pending (List.getLast_mem hn)] at hb
  contradiction

/-- and nothing is when a slash comes. -/
theorem Sound.pending_slash {s : Scanner} (hs : s.Sound) {cs : List Char}
    (h : Laid (s.pending ++ '/' :: cs)) : s.pending = [] := by
  by_contra hn
  have hl := List.getLast?_eq_some_getLast hn
  have hsp := (List.isChain_append.mp h.spaced).2.2 _ hl '/' rfl rfl
  have hb := hs.mem_pending (List.getLast_mem hn)
  rw [hsp] at hb
  exact absurd hb (by decide)

/-- What the scanner makes of the rest of a text is what the pending characters and the rest read
as. -/
def Agrees (s : Scanner) (cs : List Char) : Prop :=
  ∀ ts, Accepts (s.run cs) ts ↔ Reads s.inverted (Lexeme.ofChars (s.pending ++ cs)) ts

theorem agrees_nil {s : Scanner} (hs : s.Sound) (h : Laid s.pending) : s.Agrees [] := by
  intro ts
  rw [List.append_nil, accepts_nil, hs.pending_end h]
  exact reads_nil.symm

theorem agrees_blank {s : Scanner} (hp : s.pending = []) {c : Char} (hc : Text.isBlank c = true)
    {cs : List Char} (h : s.Agrees cs) : s.Agrees (c :: cs) := by
  intro ts
  rw [accepts_skip (step_blank hp hc), h ts, hp, List.nil_append, List.nil_append,
    Lexeme.ofChars_blank hc, reads_blank]

theorem agrees_slash {s : Scanner} (hp : s.pending = []) {cs : List Char}
    (h : { s with inverted := true }.Agrees cs) : s.Agrees ('/' :: cs) := by
  intro ts
  have hp' : { s with inverted := true }.pending = [] := hp
  rw [accepts_skip (step_slash s), h ts, hp, hp', List.nil_append, List.nil_append,
    Lexeme.ofChars_slash, reads_slash]

theorem agrees_letter {s : Scanner} (hs : s.Sound) (hm : s.mode = .symbol) {c : Char}
    (hc : Text.isLetter c = true) {cs : List Char}
    (h : { s with symbol := s.symbol ++ [c] }.Agrees cs) : s.Agrees (c :: cs) := by
  intro ts
  rw [accepts_skip (step_letter hm hc), h ts]
  simp [pending, hs.exponent_nil hm]

theorem agrees_figure {s : Scanner} {c : Char} (hc : isExponentChar c = true) {cs : List Char}
    (h : { s with mode := .exponent, exponent := s.exponent ++ [c] }.Agrees cs) :
    s.Agrees (c :: cs) := by
  intro ts
  rw [accepts_skip (step_figure hc), h ts]
  simp [pending]

theorem agrees_stray (s : Scanner) {c : Char} (hl : Text.isLetter c = false)
    (he : isExponentChar c = false) (hb : Text.isBlank c = false) (hd : c ≠ '/')
    (cs : List Char) : s.Agrees (c :: cs) := by
  intro ts
  have hm : .stray c ∈ Lexeme.ofChars (s.pending ++ c :: cs) :=
    Lexeme.stray_mem_ofChars hl he hb hd (by simp)
  exact ⟨fun h => absurd h (accepts_stop (step_stray s hl he hb hd)),
    fun h => absurd hm (h.not_stray c)⟩

/-- A blank ends a symbol, whose exponent is one. -/
theorem agrees_word_end {s : Scanner} (hs : s.Sound) (hm : s.mode = .symbol)
    (hp : s.pending ≠ []) {c : Char} (hc : Text.isBlank c = true) {cs : List Char}
    (h : Agrees {} cs) : s.Agrees (c :: cs) := by
  intro ts
  have hx := hs.exponent_nil hm
  have hw : s.symbol ≠ [] := fun hw => hp (by rw [pending, hw, hx]; rfl)
  have hl : Lexeme.startsWord (c :: cs) = false := Text.isLetter_of_isBlank hc
  have hf : Lexeme.startsFigure (c :: cs) = false := isExponentChar_of_isBlank hc
  rw [accepts_hand (step_word_end hm hw hc), pending, hx, List.append_nil,
    Lexeme.ofChars_word hs.letters hw hl, reads_plain (Lexeme.ofChars_ne_figure hf),
    Lexeme.ofChars_blank hc]
  exact exists_congr fun rest => and_congr_left' ((h rest).trans reads_blank.symm)

/-- The scanner goes on behind an ended exponent as the text does. -/
theorem reads_reopen {c : Char} (hc : Text.isBlank c = true ∨ Text.isLetter c = true)
    {cs : List Char} (h : Agrees (reopen false (plainBlank c)) cs) (ts : List Term) :
    Accepts ((reopen false (plainBlank c)).run cs) ts ↔
      Reads false (Lexeme.ofChars (c :: cs)) ts := by
  rw [h ts]
  rcases hc with hb | hl
  · rw [plainBlank, if_pos hb, pending_reopen_blank, Lexeme.ofChars_blank hb, reads_blank]
    rfl
  · rw [plainBlank_letter hl, pending_reopen (ne_blank_of_isLetter hl)]
    rfl

/-- The end of a number without a symbol: only a lone one may stand there. -/
theorem agrees_numerator_end {s : Scanner} (hs : s.Sound) (hm : s.mode = .exponent)
    (hw : s.symbol = []) {c : Char} (hc : Text.isBlank c = true ∨ Text.isLetter c = true)
    {cs : List Char} (h : Agrees (reopen false (plainBlank c)) cs) : s.Agrees (c :: cs) := by
  intro ts
  have hx : s.exponent ≠ [] := hs.mode.mp hm
  have hstep := step_figure_end hm hx hc
  rw [if_pos hw] at hstep
  rw [pending, hw, List.nil_append, Lexeme.ofChars_figure hs.figures hx (startsFigure_end hc cs),
    reads_figure]
  by_cases h1 : s.exponent = ['1']
  · cases hi : s.inverted with
    | true =>
      have hstop : s.step c = .error (.fault .invertedNumber) := by
        rw [hstep, endNumerator, if_neg (not_not.mpr h1), if_pos hi]
      exact ⟨fun h => absurd h (accepts_stop hstop), fun h => absurd h.2.1 (by simp)⟩
    | false =>
      have hskip : s.step c = .ok (reopen false (plainBlank c), none) := by
        rw [hstep, endNumerator, if_neg (not_not.mpr h1), hi]
        rfl
      rw [accepts_skip hskip, reads_reopen hc h]
      exact ⟨fun h => ⟨h1, rfl, h⟩, fun h => h.2.2⟩
  · have hstop := hstep.trans (if_pos h1)
    exact ⟨fun h => absurd h (accepts_stop hstop), fun h => absurd h.1 h1⟩

/-- The end of the exponent of a symbol, which has to be an integer. -/
theorem agrees_power_end {s : Scanner} (hs : s.Sound) (hm : s.mode = .exponent)
    (hw : s.symbol ≠ []) {c : Char} (hc : Text.isBlank c = true ∨ Text.isLetter c = true)
    {cs : List Char} (h : Agrees (reopen false (plainBlank c)) cs) : s.Agrees (c :: cs) := by
  intro ts
  have hx : s.exponent ≠ [] := hs.mode.mp hm
  have hstep := step_figure_end hm hx hc
  have hl : Lexeme.startsWord (s.exponent ++ c :: cs) = false := by
    obtain ⟨d, x, he⟩ := List.exists_cons_of_ne_nil hx
    rw [he]
    exact isLetter_of_isExponentChar (hs.figures d (by simp [he]))
  rw [if_neg hw, endExponent] at hstep
  rw [pending, List.append_assoc, Lexeme.ofChars_word hs.letters hw hl,
    Lexeme.ofChars_figure hs.figures hx (startsFigure_end hc cs), reads_power]
  cases he : Literal.integer? s.exponent with
  | none =>
    rw [he] at hstep
    refine ⟨fun h => absurd h (accepts_stop hstep), ?_⟩
    rintro ⟨e, rest, hd, -, -⟩
    rw [(integer?_iff hs.figures).mpr hd] at he
    contradiction
  | some e =>
    rw [he] at hstep
    rw [accepts_hand hstep]
    have hd := (integer?_iff hs.figures).mp he
    constructor
    · rintro ⟨rest, hr, rfl⟩
      exact ⟨e, rest, hd, (reads_reopen hc h rest).mp hr, rfl⟩
    · rintro ⟨e', rest, hd', hr, rfl⟩
      rw [(integer?_iff hs.figures).mpr hd', Option.some.injEq] at he
      subst he
      exact ⟨rest, (reads_reopen hc h rest).mpr hr, rfl⟩

theorem agrees_figure_end {s : Scanner} (hs : s.Sound) (hm : s.mode = .exponent) {c : Char}
    (hc : Text.isBlank c = true ∨ Text.isLetter c = true) {cs : List Char}
    (h : Agrees (reopen false (plainBlank c)) cs) : s.Agrees (c :: cs) := by
  by_cases hw : s.symbol = []
  · exact agrees_numerator_end hs hm hw hc h
  · exact agrees_power_end hs hm hw hc h

/-- The induction is on the rest: each character goes into a buffer, which leaves the text as a
whole the same, or ends a lexeme. -/
theorem agrees {s : Scanner} (hs : s.Sound) {cs : List Char} (h : Laid (s.pending ++ cs)) :
    s.Agrees cs := by
  induction cs generalizing s with
  | nil => exact agrees_nil hs (by rwa [List.append_nil] at h)
  | cons c cs ih =>
    have ht : Laid (c :: cs) := h.drop
    have hend (hc : Text.isBlank c = true ∨ Text.isLetter c = true) :
        Agrees (reopen false (plainBlank c)) cs := ih (sound_resume hc) (laid_resume hc ht)
    cases hb : Text.isBlank c with
    | true =>
      cases hm : s.mode with
      | exponent => exact agrees_figure_end hs hm (.inl hb) (hend (.inl hb))
      | symbol =>
        by_cases hp : s.pending = []
        · refine agrees_blank hp hb (ih hs ?_)
          rw [hp]
          exact ht.tail
        · refine agrees_word_end hs hm hp hb ?_
          have := hend (.inl hb)
          rwa [plainBlank, if_pos hb] at this
    | false =>
    cases hl : Text.isLetter c with
    | true =>
      cases hm : s.mode with
      | exponent => exact agrees_figure_end hs hm (.inr hl) (hend (.inr hl))
      | symbol =>
        refine agrees_letter hs hm hl (ih (hs.letter hl) ?_)
        simpa [pending, hs.exponent_nil hm] using h
    | false =>
    cases he : isExponentChar c with
    | true =>
      refine agrees_figure he (ih (hs.figure he) ?_)
      simpa [pending] using h
    | false =>
      by_cases hd : c = '/'
      · subst hd
        have hp := hs.pending_slash h
        refine agrees_slash hp (ih (hs.slash) ?_)
        change Laid (s.pending ++ cs)
        rw [hp]
        exact ht.tail
      · exact agrees_stray s hl he hb hd cs

/-- From the start on, the scanner accepts what reads. -/
theorem accepts_iff_reads {cs : List Char} (h : Laid cs) {ts : List Term} :
    Accepts (({} : Scanner).run cs) ts ↔ Reads false (Lexeme.ofChars cs) ts :=
  agrees (sound_start false) h ts

end Scanner

/-- A slash is never the first of what a character is spelled as, and stands behind a blank. -/
theorem spaced_respell (cs : List Char) :
    (cs.flatMap respell ++ [' ']).IsChain (fun a b => b = '/' → a = ' ') ∧
      (cs.flatMap respell ++ [' ']).head? ≠ some '/' := by
  induction cs with
  | nil => exact ⟨.singleton _, by decide⟩
  | cons c cs ih =>
    obtain ⟨hc, hh⟩ := ih
    have hn : ∀ a, ∀ b ∈ (cs.flatMap respell ++ [' ']).head?, b = '/' → a = ' ' := by
      rintro a b hb rfl
      exact absurd hb hh
    rw [List.flatMap_cons, List.append_assoc, respell.eq_def]
    split
    case h_4 => exact ⟨hc, hh⟩
    case h_5 =>
      refine ⟨List.isChain_cons.mpr ⟨?_, List.isChain_cons.mpr ⟨hn '/', hc⟩⟩, by simp⟩
      simp
    case h_6 c _ _ _ _ hs => exact ⟨List.isChain_cons.mpr ⟨hn _, hc⟩, by simpa using hs⟩
    all_goals exact ⟨List.isChain_cons.mpr ⟨hn ' ', hc⟩, by simp⟩

theorem laid_plainSpelling (text : String) :
    Scanner.Laid ((plainSpelling text).toList ++ [' ']) := by
  refine ⟨?_, ?_⟩
  · rw [plainSpelling, String.toList_ofList]
    exact (spaced_respell _).1
  · intro c hc
    rw [List.getLast?_concat, Option.mem_def, Option.some.injEq] at hc
    subst hc
    decide

theorem scan_eq_of_parts {text : String} {ts : List Term} (ht : (scan text).terms = ts)
    (hf : (scan text).failure? = none) : scan text = ⟨ts, none⟩ := by
  rw [← ht, ← hf]

theorem scan_eq_iff (text : String) (ts : List Term) :
    scan text = ⟨ts, none⟩ ↔
      Scanner.Accepts (({} : Scanner).run ((plainSpelling text).toList ++ [' '])) ts := by
  unfold scan Scanner.Accepts
  split
  · rename_i h
    simp [h]
  · rename_i last h
    cases hi : last.inverted <;> simp [h, hi]

theorem scan_eq_iff_reading (text : String) (ts : List Term) :
    scan text = ⟨ts, none⟩ ↔ Reading text ts := by
  have hb : Text.isBlank ' ' = true := by decide
  rw [scan_eq_iff, Reading, Scanner.accepts_iff_reads (laid_plainSpelling text),
    Lexeme.ofChars_concat_blank hb, reads_concat_blank]

/-- A scan that ends early says that the text is no expression, or that an exponent is malformed. -/
theorem scan_failure {text : String} {failure : Failure} (h : (scan text).failure? = some failure) :
    (∃ fault, failure = .expression text fault) ∨
      ∃ symbol digits, failure = .malformedExponent symbol digits := by
  unfold scan at h
  split at h
  · rename_i stop _
    cases stop with
    | fault f => exact .inl ⟨f, (Option.some.inj h).symm⟩
    | exponent symbol digits => exact .inr ⟨symbol, digits, (Option.some.inj h).symm⟩
  · rename_i last _
    cases hi : last.inverted with
    | true =>
      simp only [hi, if_true, Option.some.injEq] at h
      exact .inl ⟨_, h.symm⟩
    | false => simp [hi] at h

/-- A scan comes to its end without a failure exactly on the texts that have a reading, and hands
out the terms of it in order. On every other text it fails, and the failure is one of the text. -/
theorem scan_iff_reading (text : String) :
    (∀ ts, scan text = ⟨ts, none⟩ ↔ Reading text ts) ∧
      ((¬∃ ts, Reading text ts) ↔
        ∃ failure, (scan text).failure? = some failure ∧
          ((∃ fault, failure = .expression text fault) ∨
            ∃ symbol digits, failure = .malformedExponent symbol digits)) := by
  refine ⟨scan_eq_iff_reading text, ?_⟩
  constructor
  · intro hn
    cases hf : (scan text).failure? with
    | none => exact absurd ⟨_, (scan_eq_iff_reading text (scan text).terms).mp (by rw [← hf])⟩ hn
    | some failure => exact ⟨failure, rfl, scan_failure hf⟩
  · rintro ⟨failure, hf, -⟩ ⟨ts, hr⟩
    rw [(scan_eq_iff_reading text ts).mpr hr] at hf
    contradiction

theorem terms_of_reading {text : String} {ts : List Term} (h : Reading text ts) :
    terms text = .ok ts := by
  have hs := (scan_eq_iff_reading text ts).mpr h
  unfold terms
  rw [hs]

theorem terms_eq_ok_iff (text : String) (ts : List Term) :
    terms text = .ok ts ↔ Reading text ts := by
  constructor
  · intro h
    unfold terms at h
    split at h
    · cases h
    · rename_i hf
      have hs : scan text = ⟨(scan text).terms, none⟩ := by rw [← hf]
      rw [Except.ok.inj h] at hs
      exact (scan_eq_iff_reading text ts).mp hs
  · exact terms_of_reading

theorem terms_failure {text : String} {failure : Failure} (h : terms text = .error failure) :
    failure.isParse = true := by
  unfold terms at h
  split at h
  · rename_i hf
    obtain rfl := Except.error.inj h
    rcases scan_failure hf with ⟨fault, rfl⟩ | ⟨symbol, digits, rfl⟩
    · rfl
    · rfl
  · cases h

end Metrology.Expression
