import Metrology.Proofs.Expression.Buffers
import Metrology.Proofs.Expression.Powers

namespace Metrology

/-- The failure at the same place of a longer text, which it shows as a whole. -/
def Failure.within (text : String) : Failure → Failure
  | .expression _ fault => .expression text fault
  | failure => failure

namespace Expression

namespace Scanner

/-- Behind an expression and a blank the scanner starts anew. -/
theorem run_divided {cs : List Char} {ts : List Term}
    (h : Accepts (({} : Scanner).run (cs ++ [' '])) ts) {c : Char} (hc : Text.isBlank c = true)
    (ds : List Char) :
    ({} : Scanner).run (cs ++ c :: ds) =
      (ts ++ (({} : Scanner).run ds).1, (({} : Scanner).run ds).2) := by
  have hb : Text.isBlank ' ' = true := by decide
  -- The blank leaves empty buffers, and by `h` no slash is left over.
  rw [run_concat_eq_of_isBlank {} hb hc] at h
  obtain ⟨ht, last, hl, hi⟩ := h
  have hrun : ({} : Scanner).run (cs ++ [c]) = (ts, .ok last) := Prod.ext ht hl
  have hlast := run_concat_blank (sound_start false) hc hrun
  rw [hi] at hlast
  rw [← List.singleton_append, ← List.append_assoc, run_append, hrun, hlast]

/-- Terms in front of a run leave its end as it is. -/
theorem Accepts.append {r : List Term × Except Stop Scanner} {us : List Term} (h : Accepts r us)
    (ts : List Term) : Accepts (ts ++ r.1, r.2) (ts ++ us) :=
  ⟨congrArg (ts ++ ·) h.1, h.2⟩

/-- Behind a slash the scanner accepts what reads there. -/
theorem accepts_slash {cs : List Char} (h : Laid cs) {ts : List Term} :
    Accepts (({} : Scanner).run ('/' :: cs)) ts ↔ Reads true (Lexeme.ofChars cs) ts := by
  rw [accepts_skip (step_slash {})]
  exact agrees (sound_start true) h ts

end Scanner

/-- Whether a character separates terms. -/
def Separates (c : Char) : Prop :=
  Text.isBlank c = true ∨ c ∈ ['*', '·', '⋅']

instance (c : Char) : Decidable (Separates c) :=
  inferInstanceAs (Decidable (_ ∨ _))

open Text.Canonical

/-- What a character of a canonical text is spelled as. -/
def spelled (c : Char) : List Char :=
  respell (Text.lower c)

/-- The plain spelling of a list of characters. -/
def plain (cs : List Char) : List Char :=
  (normal cs).flatMap spelled

theorem plainSpelling_eq (text : String) : (plainSpelling text).toList = plain text.toList := by
  rw [toList_plainSpelling, List.flatMap_map]
  rfl

theorem plain_divides {c g : Char} (h : Divides c g) (cs ds : List Char) :
    plain (cs ++ c :: ds) = plain cs ++ (spelled g ++ plain ds) := by
  rw [plain, normal_divides h, List.flatMap_append, List.flatMap_cons]
  rfl

theorem toList_plainSpelling_divided {c g : Char} (h : Divides c g) {sep : String}
    (hsep : sep.toList = [c]) (a b : String) :
    (plainSpelling (a ++ sep ++ b)).toList =
      (plainSpelling a).toList ++ (spelled g ++ (plainSpelling b).toList) := by
  have ht : (a ++ sep ++ b).toList = a.toList ++ c :: b.toList := by
    rw [String.toList_append, String.toList_append, hsep, List.append_assoc]
    rfl
  rw [plainSpelling_eq, plainSpelling_eq, plainSpelling_eq, ht, plain_divides h]

theorem blanks_plain :
    ∀ n ∈ Text.blanks, spelled (Char.ofNat n) = [Char.ofNat n] := by
  decide

theorem divides_sign {c : Char} (h : c ∈ ['*', '·', '⋅', '/']) : Divides c c := by
  have hall : ['*', '·', '⋅', '/'].all (fun c => decide (expand 3 c = [c] ∧
      combiningClass c = 0 ∧ composesNever c.toNat = true)) = true := by
    decide +kernel
  obtain ⟨he, hb, hn⟩ := of_decide_eq_true (List.all_eq_true.mp hall c h)
  exact divides_of_check he hb hn

/-- A separator divides a text, and is spelled as a blank. -/
theorem Separates.spelled_blank {c : Char} (h : Separates c) :
    ∃ g d, Divides c g ∧ spelled g = [d] ∧ Text.isBlank d = true := by
  rcases h with hb | hs
  · obtain ⟨g, hg, hd⟩ := divides_blank hb
    have hp := blanks_plain g.toNat (List.contains_iff_mem.mp hg)
    rw [Char.ofNat_toNat] at hp
    exact ⟨g, g, hd, hp, hg⟩
  · have hall : ['*', '·', '⋅'].all (fun c => spelled c == [' ']) = true := by decide
    have hp := eq_of_beq (List.all_eq_true.mp hall c hs)
    have hmem : c ∈ ['*', '·', '⋅', '/'] := List.mem_append_left ['/'] hs
    exact ⟨c, ' ', divides_sign hmem, hp, by decide⟩

theorem within_failure (text part : String) (stop : Stop) :
    (stop.failure part).within text = stop.failure text := by
  cases stop <;> rfl

/-- Terms in front of a scan leave its end as it is. -/
theorem scan_eq_append {text part : String} {ts : List Term}
    (h : ({} : Scanner).run ((plainSpelling text).toList ++ [' ']) =
      (ts ++ (({} : Scanner).run ((plainSpelling part).toList ++ [' '])).1,
        (({} : Scanner).run ((plainSpelling part).toList ++ [' '])).2)) :
    scan text = ⟨ts ++ (scan part).terms, (scan part).failure?.map (·.within text)⟩ := by
  unfold scan
  rw [h]
  rcases ({} : Scanner).run ((plainSpelling part).toList ++ [' ']) with ⟨us, stop | last⟩
  · simp only [Option.map_some, within_failure]
  · cases hi : last.inverted <;> simp [hi, Failure.within]

theorem scan_separated {a : String} {ts : List Term} (ha : scan a = ⟨ts, none⟩) {c : Char}
    (hc : Separates c) (b : String) :
    scan (a ++ .singleton c ++ b) =
      ⟨ts ++ (scan b).terms,
        (scan b).failure?.map (·.within (a ++ .singleton c ++ b))⟩ := by
  obtain ⟨g, d, hg, hd, hb⟩ := hc.spelled_blank
  refine scan_eq_append ?_
  rw [toList_plainSpelling_divided hg (String.toList_singleton c), hd, List.append_assoc,
    List.append_assoc, List.singleton_append]
  exact Scanner.run_divided ((scan_eq_iff a ts).mp ha) hb _

/-- Whether no number stands in front of the first word. -/
def NoNumberAhead (ls : List Lexeme) : Prop :=
  ∀ l ∈ ls.takeWhile (!·.isWord), l.isFigure = false

instance (ls : List Lexeme) : Decidable (NoNumberAhead ls) :=
  inferInstanceAs (Decidable (∀ l ∈ ls.takeWhile (!·.isWord), l.isFigure = false))

theorem NoNumberAhead.tail {l : Lexeme} {ls : List Lexeme} (h : NoNumberAhead (l :: ls))
    (hl : l.isWord = false) : NoNumberAhead ls := by
  intro l' hm
  refine h l' ?_
  rw [List.takeWhile_cons_of_pos (by simp [hl])]
  exact List.mem_cons_of_mem l hm

theorem not_noNumberAhead_figure (x : List Char) (ls : List Lexeme) :
    ¬NoNumberAhead (.figure x :: ls) := by
  intro h
  have hx := h (.figure x) (by simp [Lexeme.isWord])
  cases hx

/-- The first term behind a slash is inverted. -/
theorem Reads.head_inverted {ls : List Lexeme} {t : Term} {us : List Term}
    (h : Reads true ls (t :: us)) : t.inverted = true := by
  generalize hb : true = b, ht : t :: us = ts at h
  induction h with
  | done => cases hb
  | blank _ ih => exact ih hb ht
  | slash _ ih => exact (ih rfl ht).trans hb
  | power _ _ _ | plain _ _ _ =>
    obtain ⟨rfl, -⟩ := List.cons.inj ht
    rfl
  | one _ _ => cases hb

/-- A slash in front inverts the first term, and no other. -/
theorem Reads.invert {ls : List Lexeme} {t : Term} {us : List Term} (h : Reads false ls (t :: us))
    (ht : t.inverted = false) (hn : NoNumberAhead ls) :
    Reads true ls ({ t with inverted := true } :: us) := by
  -- The induction is on the reading: blanks are passed, and it ends at the first word. There the
  -- term in front takes the flag, while what follows is read with no slash in either case.
  generalize hb : false = b, hts : t :: us = ts at h
  induction h with
  | done => cases hts
  | blank _ ih => exact .blank (ih (hn.tail rfl) hb hts)
  | slash h _ =>
    subst hts
    rw [h.head_inverted] at ht
    cases ht
  | power he h _ =>
    obtain ⟨rfl, rfl⟩ := List.cons.inj hts
    exact .power he h
  | plain hx h _ =>
    obtain ⟨rfl, rfl⟩ := List.cons.inj hts
    exact .plain hx h
  | one _ _ => exact absurd hn (not_noNumberAhead_figure _ _)

/-- Whether a text scans to terms of which a slash in front would invert the first. -/
structure Invertible (text : String) (t : Term) (us : List Term) : Prop where
  scan : scan text = ⟨t :: us, none⟩
  upright : t.inverted = false
  unnumbered : NoNumberAhead (Lexeme.ofChars (plainSpelling text).toList)

/-- A text behind a slash is read as it is alone, but for its first term. -/
theorem scan_slash {a b : String} {ts us : List Term} {t : Term} (ha : scan a = ⟨ts, none⟩)
    (hb : Invertible b t us) :
    scan (a ++ "/" ++ b) = ⟨ts ++ { t with inverted := true } :: us, none⟩ := by
  have hblank : Text.isBlank ' ' = true := by decide
  have hread := ((scan_eq_iff_reading b (t :: us)).mp hb.scan).invert hb.upright hb.unnumbered
  have hrest : Scanner.Accepts (({} : Scanner).run ('/' :: ((plainSpelling b).toList ++ [' '])))
      ({ t with inverted := true } :: us) := by
    rwa [Scanner.accepts_slash (laid_plainSpelling b), Lexeme.ofChars_concat_blank hblank,
      reads_concat_blank]
  have hd : (plainSpelling (a ++ "/" ++ b)).toList ++ [' '] =
      (plainSpelling a).toList ++ ' ' :: '/' :: ((plainSpelling b).toList ++ [' ']) := by
    have hs : spelled '/' = [' ', '/'] := by decide
    have hv : Divides '/' '/' := divides_sign (by decide)
    rw [toList_plainSpelling_divided hv rfl, hs, List.append_assoc,
      List.append_assoc, List.cons_append, List.singleton_append]
  rw [scan_eq_iff, hd, Scanner.run_divided ((scan_eq_iff a ts).mp ha) hblank]
  exact hrest.append ts

-- Not so with a number ahead: a one that stands alone is no text to put behind a slash.
example : (scan "1 s").terms = [⟨"s", 1, false⟩] ∧
    (scan "m/1 s").failure? = some (.expression "m/1 s" .invertedNumber) := by
  decide +kernel

end Expression

end Metrology
