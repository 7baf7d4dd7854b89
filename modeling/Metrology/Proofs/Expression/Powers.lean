import Metrology.Proofs.Expression.Scanning
import Metrology.Proofs.Number.RatioText
import Metrology.Proofs.Text.Canonical.Division
import Metrology.Proofs.Text.Superscript

namespace Metrology.Expression

open Text.Canonical

theorem toList_plainSpelling (text : String) :
    (plainSpelling text).toList = ((normal text.toList).map Text.lower).flatMap respell := by
  rw [plainSpelling, symbolKey, Text.fromSuperscript, toList_canonical, String.toList_ofList,
    String.toList_ofList]

theorem glyphs_apart : ∀ pair ∈ Text.glyphs, Text.isLetter pair.2 = false := by
  decide +kernel

theorem signs_apart {c : Char} (h : c ∈ ['*', '·', '⋅', '^', '/']) :
    Text.isLetter c = false := by
  have hall : ['*', '·', '⋅', '^', '/'].all (fun c => !Text.isLetter c) = true := by
    decide +kernel
  simpa using List.all_eq_true.mp hall c h

theorem lower_letter {c : Char} (h : Text.isLetter c = true) : Text.lower c = c := by
  refine Text.lower_eq_self_iff.mpr fun hg => ?_
  obtain ⟨pair, hp, rfl⟩ := Text.isGlyph_iff.mp hg
  rw [glyphs_apart pair hp] at h
  contradiction

theorem respell_letter {c : Char} (h : Text.isLetter c = true) : respell c = [c] := by
  have hne (d : Char) (hd : d ∈ ['*', '·', '⋅', '^', '/']) : c ≠ d := by
    rintro rfl
    rw [signs_apart hd] at h
    contradiction
  exact respell.eq_6 c (hne _ (by simp)) (hne _ (by simp)) (hne _ (by simp)) (hne _ (by simp))
    (hne _ (by simp))

/-- A raised exponent character is a glyph that stands for it. -/
theorem raise_exponentChar {c : Char} (h : isExponentChar c = true) :
    (∃ pair ∈ Text.glyphs, pair.2 = Text.raise c) ∧ Text.lower (Text.raise c) = c ∧
      respell c = [c] := by
  rcases Bool.or_eq_true .. |>.mp h with h | h
  · obtain ⟨n, hn, rfl⟩ := Literal.digitChar_of_isDigit h
    have hall : ∀ n < 10, (∃ pair ∈ Text.glyphs, pair.2 = Text.raise (Nat.digitChar n)) ∧
        Text.lower (Text.raise (Nat.digitChar n)) = Nat.digitChar n ∧
        respell (Nat.digitChar n) = [Nat.digitChar n] := by
      decide
    exact hall n hn
  · obtain rfl := eq_of_beq h
    decide

theorem isExponentChar_of_isDigit {c : Char} (h : c.isDigit = true) : isExponentChar c = true := by
  rw [isExponentChar, h]
  rfl

theorem isExponentChar_integerChars {n : Int} :
    ∀ c ∈ Literal.integerChars n, isExponentChar c = true := by
  intro c h
  rcases List.mem_append.mp h with hs | hd
  · split at hs
    · rw [List.mem_singleton.mp hs]
      decide
    · cases hs
  · exact isExponentChar_of_isDigit (Literal.isDigit_digits hd)

theorem integerChars_ne_nil (n : Int) : Literal.integerChars n ≠ [] :=
  List.append_ne_nil_of_right_ne_nil _ Nat.toDigits_ne_nil

theorem denotes_integerChars {n : Int} (h : WritableInt n) : Denotes (Literal.integerChars n) n := by
  refine ⟨Nat.toDigits 10 n.natAbs, Nat.toDigits_ne_nil, fun c hc => Literal.isDigit_digits hc,
    Literal.length_digits h, ?_⟩
  rw [Nat.ofDigitChars_ten_toDigits, Literal.integerChars]
  by_cases hn : n < 0
  · rw [if_pos hn]
    exact .inr ⟨rfl, by omega⟩
  · rw [if_neg hn]
    exact .inl ⟨rfl, by omega⟩

/-- The characters of an integer in superscript. -/
def raised (n : Int) : List Char :=
  (Literal.integerChars n).map Text.raise

theorem toList_toSuperscript (n : Int) :
    (Text.toSuperscript (toString n)).toList = raised n := by
  rw [Text.toSuperscript, String.toList_ofList, Literal.toList_toString]
  rfl

theorem lower_raised (n : Int) : (raised n).map Text.lower = Literal.integerChars n := by
  rw [raised, List.map_map]
  refine (List.map_congr_left fun c hc => ?_).trans (List.map_id _)
  exact (raise_exponentChar (isExponentChar_integerChars c hc)).2.1

theorem spelling_letters {cs : List Char} (h : ∀ c ∈ cs, Text.isLetter c = true) :
    (cs.map Text.lower).flatMap respell = cs := by
  induction cs with
  | nil => rfl
  | cons c cs ih =>
    have hc := h c (by simp)
    rw [List.map_cons, List.flatMap_cons, lower_letter hc, respell_letter hc,
      ih fun d hd => h d (by simp [hd])]
    rfl

theorem spelling_raise {cs : List Char} (h : ∀ c ∈ cs, isExponentChar c = true) :
    ((cs.map Text.raise).map Text.lower).flatMap respell = cs := by
  induction cs with
  | nil => rfl
  | cons c cs ih =>
    obtain ⟨-, hl, hr⟩ := raise_exponentChar (h c (by simp))
    rw [List.map_cons, List.map_cons, List.flatMap_cons, hl, hr, ih fun d hd => h d (by simp [hd])]
    rfl

/-- A word stands for itself. -/
theorem reading_word {key : String} (hk : symbolKey key = key) (hn : key.toList ≠ [])
    (hl : ∀ c ∈ key.toList, Text.isLetter c = true) : Reading key [⟨key, 1, false⟩] := by
  have hs : (plainSpelling key).toList = key.toList := by
    rw [toList_plainSpelling, ← toList_canonical, ← symbolKey, hk, spelling_letters hl]
  have ho : Lexeme.ofChars (key.toList ++ []) = [.word key.toList] := Lexeme.ofChars_word hl hn rfl
  rw [List.append_nil] at ho
  rw [Reading, hs, ho]
  have hr : Reads false [.word key.toList] [⟨String.ofList key.toList, 1, false⟩] :=
    .plain (by simp) .done
  rwa [String.ofList_toList] at hr

/-- A symbol with an exponent. -/
structure Power where
  symbol : String
  exponent : Int

namespace Power

/-- The symbol with its exponent in superscript. -/
def chars (p : Power) : List Char :=
  p.symbol.toList ++ raised p.exponent

/-- The key of the symbol with its exponent behind it. -/
def plainChars (p : Power) : List Char :=
  (symbolKey p.symbol).toList ++ Literal.integerChars p.exponent

def term (p : Power) : Term :=
  ⟨symbolKey p.symbol, p.exponent, false⟩

/-- Whether the power reads back: its key is a word, and its exponent can be written. -/
structure Sound (p : Power) : Prop where
  nonempty : (symbolKey p.symbol).toList ≠ []
  letters : ∀ c ∈ (symbolKey p.symbol).toList, Text.isLetter c = true
  writable : WritableInt p.exponent

theorem normal_powers (ps : List Power) :
    normal (ps.flatMap chars) =
      ps.flatMap fun p => (symbolKey p.symbol).toList ++ raised p.exponent := by
  induction ps with
  | nil => rfl
  | cons p ps ih =>
    have hg : ∀ g ∈ raised p.exponent, ∃ pair ∈ Text.glyphs, pair.2 = g := by
      intro g hg
      obtain ⟨c, hc, rfl⟩ := List.mem_map.mp hg
      exact (raise_exponentChar (isExponentChar_integerChars c hc)).1
    have hn : raised p.exponent ≠ [] := by
      simpa [raised] using integerChars_ne_nil p.exponent
    rw [List.flatMap_cons, List.flatMap_cons, chars, List.append_assoc, normal_glyphs hg hn, ih,
      List.append_assoc, symbolKey, toList_canonical]

theorem toList_plainSpelling_powers {ps : List Power} (h : ∀ p ∈ ps, p.Sound) :
    (plainSpelling (String.ofList (ps.flatMap chars))).toList = ps.flatMap plainChars := by
  rw [toList_plainSpelling, String.toList_ofList, normal_powers]
  induction ps with
  | nil => rfl
  | cons p ps ih =>
    rw [List.flatMap_cons, List.flatMap_cons, List.map_append, List.flatMap_append,
      ih fun q hq => h q (by simp [hq]), List.map_append, List.flatMap_append,
      spelling_letters (h p (by simp)).letters, raised, spelling_raise isExponentChar_integerChars]
    rfl

theorem startsFigure_powers {ps : List Power} (h : ∀ p ∈ ps, p.Sound) :
    Lexeme.startsFigure (ps.flatMap plainChars) = false := by
  cases ps with
  | nil => rfl
  | cons p ps =>
    obtain ⟨hn, hl, -⟩ := h p (by simp)
    obtain ⟨c, cs, hc⟩ := List.exists_cons_of_ne_nil hn
    rw [List.flatMap_cons, plainChars, hc]
    exact isExponentChar_of_isLetter (hl c (by simp [hc]))

theorem startsWord_figure (n : Int) (cs : List Char) :
    Lexeme.startsWord (Literal.integerChars n ++ cs) = false := by
  obtain ⟨c, x, hc⟩ := List.exists_cons_of_ne_nil (integerChars_ne_nil n)
  rw [hc]
  exact isLetter_of_isExponentChar (isExponentChar_integerChars c (hc ▸ List.mem_cons_self))

theorem reads_powers {ps : List Power} (h : ∀ p ∈ ps, p.Sound) :
    Reads false (Lexeme.ofChars (ps.flatMap plainChars)) (ps.map term) := by
  induction ps with
  | nil => exact .done
  | cons p ps ih =>
    obtain ⟨hn, hl, hw⟩ := h p (by simp)
    have hs : ∀ q ∈ ps, q.Sound := fun q hq => h q (by simp [hq])
    rw [List.flatMap_cons, plainChars, List.append_assoc,
      Lexeme.ofChars_word hl hn (startsWord_figure p.exponent _),
      Lexeme.ofChars_figure isExponentChar_integerChars (integerChars_ne_nil p.exponent)
        (startsFigure_powers hs)]
    have hr := Reads.power (b := false) (w := (symbolKey p.symbol).toList)
      (denotes_integerChars hw) (ih hs)
    rwa [String.ofList_toList] at hr

/-- Powers one behind the other, without blanks, stand for their terms. -/
theorem reading_powers {ps : List Power} (h : ∀ p ∈ ps, p.Sound) :
    Reading (String.ofList (ps.flatMap chars)) (ps.map term) := by
  rw [Reading, toList_plainSpelling_powers h]
  exact reads_powers h

end Power

end Metrology.Expression
