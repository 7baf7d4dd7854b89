import Mathlib.Data.List.Chain
import Metrology.Proofs.Text.Classes

namespace Metrology.Expression

inductive Lexeme
  | word (letters : List Char)
  | figure (chars : List Char)
  | blank (c : Char)
  | slash
  /-- A character that belongs to no expression. -/
  | stray (c : Char)
  deriving DecidableEq

namespace Lexeme

def isWord : Lexeme → Bool
  | word _ => true
  | _ => false

def isFigure : Lexeme → Bool
  | figure _ => true
  | _ => false

/-- A letter in front, which joins the run of letters that follows. -/
def pushLetter (c : Char) : List Lexeme → List Lexeme
  | word w :: rest => word (c :: w) :: rest
  | rest => word [c] :: rest

/-- An exponent character in front, which joins the run that follows. -/
def pushFigure (c : Char) : List Lexeme → List Lexeme
  | figure x :: rest => figure (c :: x) :: rest
  | rest => figure [c] :: rest

def push (c : Char) (rest : List Lexeme) : List Lexeme :=
  if Text.isLetter c then pushLetter c rest
  else if isExponentChar c then pushFigure c rest
  else if Text.isBlank c then blank c :: rest
  else if c = '/' then slash :: rest
  else stray c :: rest

/-- The cut of a text into lexemes. -/
def ofChars (cs : List Char) : List Lexeme :=
  cs.foldr push []

def chars : Lexeme → List Char
  | word w => w
  | figure x => x
  | blank c | stray c => [c]
  | slash => ['/']

/-- Whether two neighbours would be one run. -/
def Joins (a b : Lexeme) : Prop :=
  (a.isWord ∧ b.isWord) ∨ (a.isFigure ∧ b.isFigure)

theorem chars_push (c : Char) (ls : List Lexeme) :
    (push c ls).flatMap chars = c :: ls.flatMap chars := by
  unfold push
  split
  · cases ls with
    | nil => rfl
    | cons l ls => cases l <;> rfl
  split
  · cases ls with
    | nil => rfl
    | cons l ls => cases l <;> rfl
  split
  · rfl
  split
  · rename_i hc
    subst hc
    rfl
  · rfl

/-- No character is lost or moved. -/
theorem chars_ofChars (cs : List Char) : (ofChars cs).flatMap chars = cs := by
  induction cs with
  | nil => rfl
  | cons c cs ih => rw [ofChars, List.foldr_cons, chars_push, ← ofChars, ih]

theorem cons_maximal {l : Lexeme} {ls : List Lexeme} (hw : l.isWord = false)
    (hf : l.isFigure = false) (h : ls.IsChain (¬Joins · ·)) : (l :: ls).IsChain (¬Joins · ·) := by
  refine List.isChain_cons.mpr ⟨?_, h⟩
  intro next _ hj
  rcases hj with ⟨hl, _⟩ | ⟨hl, _⟩
  · rw [hw] at hl
    contradiction
  · rw [hf] at hl
    contradiction

theorem pushLetter_maximal (c : Char) {ls : List Lexeme} (h : ls.IsChain (¬Joins · ·)) :
    (pushLetter c ls).IsChain (¬Joins · ·) := by
  rw [pushLetter.eq_def]
  split
  · obtain ⟨hh, ht⟩ := List.isChain_cons.mp h
    exact List.isChain_cons.mpr ⟨hh, ht⟩
  · rename_i hn
    refine List.isChain_cons.mpr ⟨?_, h⟩
    rintro (_ | _ | _ | _ | _) hm (⟨-, hw⟩ | ⟨hf, -⟩)
    case word.inl w =>
      obtain ⟨rest, rfl⟩ := List.head?_eq_some_iff.mp hm
      exact hn w rest rfl
    all_goals contradiction

theorem pushFigure_maximal (c : Char) {ls : List Lexeme} (h : ls.IsChain (¬Joins · ·)) :
    (pushFigure c ls).IsChain (¬Joins · ·) := by
  rw [pushFigure.eq_def]
  split
  · obtain ⟨hh, ht⟩ := List.isChain_cons.mp h
    exact List.isChain_cons.mpr ⟨hh, ht⟩
  · rename_i hn
    refine List.isChain_cons.mpr ⟨?_, h⟩
    rintro (_ | _ | _ | _ | _) hm (⟨hw, -⟩ | ⟨-, hf⟩)
    case figure.inr x =>
      obtain ⟨rest, rfl⟩ := List.head?_eq_some_iff.mp hm
      exact hn x rest rfl
    all_goals contradiction

theorem push_maximal (c : Char) (ls : List Lexeme) (h : ls.IsChain (¬Joins · ·)) :
    (push c ls).IsChain (¬Joins · ·) := by
  unfold push
  split
  · exact pushLetter_maximal c h
  split
  · exact pushFigure_maximal c h
  split
  · exact cons_maximal rfl rfl h
  split
  · exact cons_maximal rfl rfl h
  · exact cons_maximal rfl rfl h

/-- The runs are maximal: no two neighbours are of one class. -/
theorem ofChars_maximal (cs : List Char) : (ofChars cs).IsChain (¬Joins · ·) := by
  induction cs with
  | nil => exact .nil
  | cons c cs ih => exact push_maximal c (ofChars cs) ih

theorem ofChars_blank {c : Char} (h : Text.isBlank c = true) (cs : List Char) :
    ofChars (c :: cs) = blank c :: ofChars cs := by
  simp [ofChars, push, Text.isLetter_of_isBlank h, isExponentChar_of_isBlank h, h]

theorem ofChars_slash (cs : List Char) : ofChars ('/' :: cs) = slash :: ofChars cs := by
  have hl : Text.isLetter '/' = false := Text.isLetter_of_le (by decide)
  have he : isExponentChar '/' = false := by decide
  have hb : Text.isBlank '/' = false := by decide
  simp [ofChars, push, hl, he, hb]

theorem ofChars_stray {c : Char} (hl : Text.isLetter c = false) (he : isExponentChar c = false)
    (hb : Text.isBlank c = false) (hs : c ≠ '/') (cs : List Char) :
    ofChars (c :: cs) = stray c :: ofChars cs := by
  simp [ofChars, push, hl, he, hb, hs]

/-- Whether a text goes on with a letter. -/
def startsWord (cs : List Char) : Bool :=
  cs.head?.any Text.isLetter

/-- Whether a text goes on with an exponent character. -/
def startsFigure (cs : List Char) : Bool :=
  cs.head?.any isExponentChar

theorem ofChars_ne_word {cs : List Char} (h : startsWord cs = false) (w : List Char)
    (rest : List Lexeme) : ofChars cs ≠ word w :: rest := by
  cases cs with
  | nil => simp [ofChars]
  | cons c cs =>
    have hl : Text.isLetter c = false := by simpa [startsWord] using h
    simp only [ofChars, List.foldr_cons, push, hl, Bool.false_eq_true, if_false]
    split
    · rw [pushFigure.eq_def]
      split <;> simp
    split
    · simp
    split <;> simp

theorem ofChars_ne_figure {cs : List Char} (h : startsFigure cs = false) (x : List Char)
    (rest : List Lexeme) : ofChars cs ≠ figure x :: rest := by
  cases cs with
  | nil => simp [ofChars]
  | cons c cs =>
    have he : isExponentChar c = false := by simpa [startsFigure] using h
    simp only [ofChars, List.foldr_cons, push, he, Bool.false_eq_true, if_false]
    split
    · rw [pushLetter.eq_def]
      split <;> simp
    split
    · simp
    split <;> simp

/-- A whole run of letters is one word. -/
theorem ofChars_word {w : List Char} (hw : ∀ c ∈ w, Text.isLetter c = true) (hn : w ≠ [])
    {cs : List Char} (hc : startsWord cs = false) :
    ofChars (w ++ cs) = word w :: ofChars cs := by
  induction w with
  | nil => exact absurd rfl hn
  | cons c w ih =>
    have hl : Text.isLetter c = true := hw c (by simp)
    change push c (ofChars (w ++ cs)) = _
    rw [push, if_pos hl]
    cases w with
    | nil =>
      rw [List.nil_append, pushLetter]
      intro v rest h
      exact ofChars_ne_word hc v rest h
    | cons d w => rw [ih (fun e he => hw e (by simp [he])) (by simp), pushLetter]

/-- A whole run of exponent characters is one figure. -/
theorem ofChars_figure {x : List Char} (hx : ∀ c ∈ x, isExponentChar c = true) (hn : x ≠ [])
    {cs : List Char} (hc : startsFigure cs = false) :
    ofChars (x ++ cs) = figure x :: ofChars cs := by
  induction x with
  | nil => exact absurd rfl hn
  | cons c x ih =>
    have he : isExponentChar c = true := hx c (by simp)
    change push c (ofChars (x ++ cs)) = _
    rw [push, if_neg (by simp [isLetter_of_isExponentChar he]), if_pos he]
    cases x with
    | nil =>
      rw [List.nil_append, pushFigure]
      intro y rest h
      exact ofChars_ne_figure hc y rest h
    | cons d x => rw [ih (fun e he => hx e (by simp [he])) (by simp), pushFigure]

theorem stray_mem_pushLetter {c : Char} {ls : List Lexeme} (h : .stray c ∈ ls) (d : Char) :
    .stray c ∈ pushLetter d ls := by
  rw [pushLetter.eq_def]
  split
  · rcases List.mem_cons.mp h with h | h
    · contradiction
    · exact List.mem_cons_of_mem _ h
  · exact List.mem_cons_of_mem _ h

theorem stray_mem_pushFigure {c : Char} {ls : List Lexeme} (h : .stray c ∈ ls) (d : Char) :
    .stray c ∈ pushFigure d ls := by
  rw [pushFigure.eq_def]
  split
  · rcases List.mem_cons.mp h with h | h
    · contradiction
    · exact List.mem_cons_of_mem _ h
  · exact List.mem_cons_of_mem _ h

theorem stray_mem_push {c : Char} {ls : List Lexeme} (h : .stray c ∈ ls) (d : Char) :
    .stray c ∈ push d ls := by
  unfold push
  split
  · exact stray_mem_pushLetter h d
  split
  · exact stray_mem_pushFigure h d
  split
  · exact List.mem_cons_of_mem _ h
  split
  · exact List.mem_cons_of_mem _ h
  · exact List.mem_cons_of_mem _ h

/-- A stray character is found wherever it stands. -/
theorem stray_mem_ofChars {c : Char} (hl : Text.isLetter c = false)
    (he : isExponentChar c = false) (hb : Text.isBlank c = false) (hs : c ≠ '/')
    {cs : List Char} (h : c ∈ cs) : .stray c ∈ ofChars cs := by
  induction cs with
  | nil => cases h
  | cons d cs ih =>
    rcases List.mem_cons.mp h with rfl | h
    · rw [ofChars_stray hl he hb hs]
      exact List.mem_cons_self
    · exact stray_mem_push (ih h) d

/-- A blank at the end of a text is a lexeme of its own. -/
theorem ofChars_concat_blank {c : Char} (h : Text.isBlank c = true) (cs : List Char) :
    ofChars (cs ++ [c]) = ofChars cs ++ [blank c] := by
  induction cs with
  | nil => exact ofChars_blank h []
  | cons d cs ih =>
    change push d (ofChars (cs ++ [c])) = push d (ofChars cs) ++ [blank c]
    rw [ih]
    cases ofChars cs with
    | nil =>
      unfold push
      repeat' split
      all_goals rfl
    | cons l ls =>
      unfold push
      cases l <;> repeat' split
      all_goals rfl

end Lexeme
end Metrology.Expression
