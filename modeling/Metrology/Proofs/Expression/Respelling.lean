import Mathlib.Logic.Relation
import Metrology.Proofs.Expression.Spelling

namespace Metrology.Expression

open Text.Canonical

/-- Two spellings of one part of an expression. -/
inductive Variant : List Char → List Char → Prop
  | raised {plain glyph : Char} (h : (plain, glyph) ∈ Text.glyphs) : Variant [plain] [glyph]
  | separator {c d : Char} (hc : Separates c) (hd : Separates d) : Variant [c] [d]
  | ahead {c d : Char} (hc : Separates c ∨ c = '/') (hd : Separates d) : Variant [c] [d, c]
  | behind {c d : Char} (hc : Separates c ∨ c = '/') (hd : Separates d) : Variant [c] [c, d]
  | caret {c : Char} (h : isExponentChar c = true ∨ ∃ plain, (plain, c) ∈ Text.glyphs) :
      Variant [c] ['^', c]

/-- A part of a text is spelled in the other way. -/
inductive Edit (text other : String) : Prop
  | mk (front back : List Char) {part instead : List Char} (variant : Variant part instead)
      (before : text.toList = front ++ (part ++ back))
      (after : other.toList = front ++ (instead ++ back))

/-- Whether edits, made or taken back, lead from one text to another one. -/
def Respelled : String → String → Prop :=
  Relation.EqvGen Edit

namespace Scanner

variable {s : Scanner}

theorem run_skip {next : Scanner} {c : Char} (h : s.step c = .ok (next, none)) (cs : List Char) :
    s.run (c :: cs) = next.run cs := by
  rw [run, h]
  rfl

/-- A blank behind a blank changes nothing. -/
theorem Sound.run_blank_blank (hs : s.Sound) {a b : Char} (ha : Text.isBlank a = true)
    (hb : Text.isBlank b = true) (cs : List Char) : s.run (a :: b :: cs) = s.run (b :: cs) := by
  rw [Scanner.run, Scanner.run, step_eq_of_isBlank s ha hb]
  cases hstep : s.step b with
  | error stop => rfl
  | ok result =>
    obtain ⟨next, handed⟩ := result
    have hnext := step_blank_start hs hb hstep
    have hskip : next.step b = .ok (next, none) := by
      rw [hnext]
      exact step_blank rfl hb
    dsimp only
    rw [run_skip hskip]

/-- Nor does one behind a slash. -/
theorem Sound.run_slash_blank (hs : s.Sound) {b : Char} (hb : Text.isBlank b = true) :
    s.run [' ', '/', b] = s.run [' ', '/'] := by
  rw [Scanner.run, Scanner.run]
  cases hstep : s.step ' ' with
  | error stop => rfl
  | ok result =>
    obtain ⟨next, handed⟩ := result
    have hnext := step_blank_start hs (by decide) hstep
    have hskip : Scanner.step { next with inverted := true } b =
        .ok ({ next with inverted := true }, none) := by
      rw [hnext]
      exact step_blank rfl hb
    dsimp only
    rw [run_skip (step_slash next), run_skip (step_slash next), run_skip hskip]

end Scanner

/-- Whether a part of a text has a plain spelling of its own, wherever it stands. -/
def SpelledApart (part ds : List Char) : Prop :=
  ∀ front back, plain (front ++ (part ++ back)) = plain front ++ (ds ++ plain back)

theorem spelledApart_divides {c g : Char} (h : Divides c g) : SpelledApart [c] (spelled g) :=
  fun front back => plain_divides h front back

theorem SpelledApart.append {part other ds es : List Char} (h : SpelledApart part ds)
    (ho : SpelledApart other es) : SpelledApart (part ++ other) (ds ++ es) := by
  intro front back
  have hback := ho [] back
  change plain (other ++ back) = es ++ plain back at hback
  rw [List.append_assoc, h, hback, List.append_assoc]

/-- Whether the scanner does the same on two parts of a plain spelling. -/
def Alike (ds es : List Char) : Prop :=
  ∀ s : Scanner, s.Sound → s.run ds = s.run es

theorem Separates.spelledApart {c : Char} (h : Separates c) :
    ∃ b, Text.isBlank b = true ∧ SpelledApart [c] [b] := by
  obtain ⟨g, b, hg, hs, hb⟩ := h.spelled_blank
  exact ⟨b, hb, hs ▸ spelledApart_divides hg⟩

theorem spelledApart_slash : SpelledApart ['/'] [' ', '/'] :=
  spelledApart_divides (divides_sign (by decide))

theorem spelledApart_caret : SpelledApart ['^'] [] :=
  spelledApart_divides divides_caret

theorem spelledApart_glyph {plain glyph : Char} (h : (plain, glyph) ∈ Text.glyphs) :
    SpelledApart [plain] [plain] ∧ SpelledApart [glyph] [plain] := by
  obtain ⟨hg, hp⟩ := glyphs_spelled _ h
  have hplain := spelledApart_divides (divides_exponentChar (glyphs_plain _ h))
  have hglyph := spelledApart_divides (divides_glyph h)
  dsimp only at hplain hglyph
  rw [hp] at hplain
  rw [hg] at hglyph
  exact ⟨hplain, hglyph⟩

theorem spelledApart_exponent {c : Char}
    (h : isExponentChar c = true ∨ ∃ plain, (plain, c) ∈ Text.glyphs) :
    ∃ ds, SpelledApart [c] ds := by
  rcases h with he | ⟨plain, hg⟩
  · exact ⟨_, spelledApart_divides (divides_exponentChar he)⟩
  · exact ⟨_, (spelledApart_glyph hg).2⟩

/-- The step: both spellings stand apart, and the scanner does the same on them. -/
theorem Variant.alike {part other : List Char} (h : Variant part other) :
    ∃ ds es, SpelledApart part ds ∧ SpelledApart other es ∧ Alike ds es := by
  cases h with
  | raised h =>
    obtain ⟨hplain, hglyph⟩ := spelledApart_glyph h
    exact ⟨_, _, hplain, hglyph, fun _ _ => rfl⟩
  | separator hc hd =>
    obtain ⟨a, ha, hac⟩ := hc.spelledApart
    obtain ⟨b, hb, hbd⟩ := hd.spelledApart
    exact ⟨_, _, hac, hbd, fun s _ => s.run_concat_eq_of_isBlank ha hb []⟩
  | ahead hc hd =>
    obtain ⟨b, hb, hbd⟩ := hd.spelledApart
    rcases hc with hc | rfl
    · obtain ⟨a, ha, hac⟩ := hc.spelledApart
      exact ⟨_, _, hac, hbd.append hac, fun s hs => (hs.run_blank_blank hb ha []).symm⟩
    · exact ⟨_, _, spelledApart_slash, hbd.append spelledApart_slash,
        fun s hs => (hs.run_blank_blank hb (by decide) ['/']).symm⟩
  | behind hc hd =>
    obtain ⟨b, hb, hbd⟩ := hd.spelledApart
    rcases hc with hc | rfl
    · obtain ⟨a, ha, hac⟩ := hc.spelledApart
      refine ⟨_, _, hac, hac.append hbd, fun s hs => ?_⟩
      exact (s.run_concat_eq_of_isBlank ha hb []).trans (hs.run_blank_blank ha hb []).symm
    · exact ⟨_, _, spelledApart_slash, spelledApart_slash.append hbd,
        fun s hs => (hs.run_slash_blank hb).symm⟩
  | caret h =>
    obtain ⟨ds, hc⟩ := spelledApart_exponent h
    exact ⟨_, _, hc, spelledApart_caret.append hc, fun _ _ => rfl⟩

/-- The run of the scanner on a text. -/
def scanRun (text : String) : List Term × Except Stop Scanner :=
  ({} : Scanner).run ((plainSpelling text).toList ++ [' '])

theorem Alike.run_eq {ds es : List Char} (h : Alike ds es) (front back : List Char) :
    ({} : Scanner).run (front ++ (ds ++ back)) = ({} : Scanner).run (front ++ (es ++ back)) := by
  rw [Scanner.run_append, Scanner.run_append]
  cases hrun : ({} : Scanner).run front with
  | mk ts last =>
    cases last with
    | error stop => rfl
    | ok s =>
      have hs := (Scanner.sound_start false).run hrun
      dsimp only
      rw [Scanner.run_append, Scanner.run_append, h s hs]

theorem Edit.scanRun_eq {text other : String} (h : Edit text other) :
    scanRun text = scanRun other := by
  obtain ⟨front, back, variant, before, after⟩ := h
  obtain ⟨ds, es, hpart, hinstead, halike⟩ := variant.alike
  unfold scanRun
  rw [plainSpelling_eq, plainSpelling_eq, before, after, hpart, hinstead, List.append_assoc,
    List.append_assoc, List.append_assoc, List.append_assoc]
  exact halike.run_eq _ _

/-- The run: by induction on the edits that lead from text to text. -/
theorem Respelled.scanRun_eq {text other : String} (h : Respelled text other) :
    scanRun text = scanRun other := by
  induction h with
  | rel _ _ h => exact h.scanRun_eq
  | refl => rfl
  | symm _ _ _ ih => exact ih.symm
  | trans _ _ _ _ _ first second => exact first.trans second

/-- Scans of one run differ in nothing but the text that a failure shows. -/
theorem scan_of_scanRun {text other : String} (h : scanRun text = scanRun other) :
    scan other = ⟨(scan text).terms, (scan text).failure?.map (·.within other)⟩ := by
  unfold scanRun at h
  rw [← List.nil_append (scan text).terms]
  refine scan_eq_append ?_
  rw [List.nil_append, h]

/-- However an expression is spelled, its scan hands out the same terms and comes to the same end. A
failure differs in nothing but the text that it shows. -/
theorem scan_respelled {text other : String} (h : Respelled text other) :
    scan other = ⟨(scan text).terms, (scan text).failure?.map (·.within other)⟩ :=
  scan_of_scanRun h.scanRun_eq

/-- A sign in place of a blank, and an exponent raised or behind a caret. -/
theorem scan_respelled_caret : Respelled "1/m·s²" "1/ m s^2" ∧
    scan "1/ m s^2" = ⟨[⟨"m", 1, true⟩, ⟨"s", 2, false⟩], none⟩ := by
  have hblank : Separates ' ' := by decide
  have hsign : Separates '·' := by decide
  have hslash : Separates '/' ∨ '/' = '/' := .inr rfl
  have htwo : ('2', '²') ∈ Text.glyphs := by decide
  have h1 : Edit "1/m·s²" "1/ m·s²" := .mk ['1'] ['m', '·', 's', '²'] (.behind hslash hblank) rfl rfl
  have h2 : Edit "1/ m·s²" "1/ m s²" :=
    .mk ['1', '/', ' ', 'm'] ['s', '²'] (.separator hsign hblank) rfl rfl
  have h3 : Edit "1/ m s²" "1/ m s^²" :=
    .mk ['1', '/', ' ', 'm', ' ', 's'] [] (.caret (.inr ⟨'2', htwo⟩)) rfl rfl
  have h4 : Edit "1/ m s^2" "1/ m s^²" :=
    .mk ['1', '/', ' ', 'm', ' ', 's', '^'] [] (.raised htwo) rfl rfl
  have h : Respelled "1/m·s²" "1/ m s^2" :=
    ((((Relation.EqvGen.rel _ _ h1).trans _ _ _ (.rel _ _ h2)).trans _ _ _ (.rel _ _ h3)).trans
      _ _ _ ((Relation.EqvGen.rel _ _ h4).symm _ _))
  have hscan : scan "1/m·s²" = ⟨[⟨"m", 1, true⟩, ⟨"s", 2, false⟩], none⟩ :=
    scan_eq_of_parts (by decide +kernel) (by decide +kernel)
  refine ⟨h, ?_⟩
  rw [scan_respelled h, hscan]
  rfl

end Metrology.Expression
