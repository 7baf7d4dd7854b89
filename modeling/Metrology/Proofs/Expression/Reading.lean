import Metrology.Proofs.Expression.Lexeme

namespace Metrology.Expression

/-- An integer as an exponent is written: digits, no more than the limit, behind a minus sign or
none. -/
def Denotes (run : List Char) (e : Int) : Prop :=
  ∃ digits : List Char, digits ≠ [] ∧ (∀ c ∈ digits, c.isDigit = true) ∧
    digits.length ≤ Literal.digitLimit ∧
    ((run = digits ∧ e = Nat.ofDigitChars 10 digits 0) ∨
      (run = '-' :: digits ∧ e = -(Nat.ofDigitChars 10 digits 0 : Int)))

/-- The terms of a list of lexemes. The flag tells whether a slash stands between the previous
term, or the start, and the first lexeme. -/
inductive Reads : Bool → List Lexeme → List Term → Prop
  | done : Reads false [] []
  | blank {b c ls ts} (h : Reads b ls ts) : Reads b (.blank c :: ls) ts
  | slash {b ls ts} (h : Reads true ls ts) : Reads b (.slash :: ls) ts
  | power {b w x e ls ts} (he : Denotes x e) (h : Reads false ls ts) :
      Reads b (.word w :: .figure x :: ls) (⟨String.ofList w, e, b⟩ :: ts)
  | plain {b w ls ts} (hx : ∀ x more, ls ≠ .figure x :: more) (h : Reads false ls ts) :
      Reads b (.word w :: ls) (⟨String.ofList w, 1, b⟩ :: ts)
  /-- A lone one, in front of which no slash may stand. -/
  | one {ls ts} (h : Reads false ls ts) : Reads false (.figure ['1'] :: ls) ts

/-- The terms that a unit expression stands for. -/
def Reading (text : String) (ts : List Term) : Prop :=
  Reads false (Lexeme.ofChars (plainSpelling text).toList) ts

theorem reads_nil {b : Bool} {ts : List Term} : Reads b [] ts ↔ b = false ∧ ts = [] := by
  constructor
  · intro h
    cases h
    exact ⟨rfl, rfl⟩
  · rintro ⟨rfl, rfl⟩
    exact .done

theorem reads_blank {b : Bool} {c : Char} {ls : List Lexeme} {ts : List Term} :
    Reads b (.blank c :: ls) ts ↔ Reads b ls ts := by
  constructor
  · intro h
    cases h
    assumption
  · exact .blank

theorem reads_slash {b : Bool} {ls : List Lexeme} {ts : List Term} :
    Reads b (.slash :: ls) ts ↔ Reads true ls ts := by
  constructor
  · intro h
    cases h
    assumption
  · exact .slash

theorem reads_power {b : Bool} {w x : List Char} {ls : List Lexeme} {ts : List Term} :
    Reads b (.word w :: .figure x :: ls) ts ↔
      ∃ e rest, Denotes x e ∧ Reads false ls rest ∧ ts = ⟨String.ofList w, e, b⟩ :: rest := by
  constructor
  · intro h
    cases h with
    | power he h => exact ⟨_, _, he, h, rfl⟩
    | plain hx _ => exact absurd rfl (hx x ls)
  · rintro ⟨e, rest, he, h, rfl⟩
    exact .power he h

theorem reads_plain {b : Bool} {w : List Char} {ls : List Lexeme} {ts : List Term}
    (hx : ∀ x more, ls ≠ .figure x :: more) :
    Reads b (.word w :: ls) ts ↔
      ∃ rest, Reads false ls rest ∧ ts = ⟨String.ofList w, 1, b⟩ :: rest := by
  constructor
  · intro h
    cases h with
    | power => exact absurd rfl (hx _ _)
    | plain _ h => exact ⟨_, h, rfl⟩
  · rintro ⟨rest, h, rfl⟩
    exact .plain hx h

theorem reads_figure {b : Bool} {x : List Char} {ls : List Lexeme} {ts : List Term} :
    Reads b (.figure x :: ls) ts ↔ x = ['1'] ∧ b = false ∧ Reads false ls ts := by
  constructor
  · intro h
    cases h
    exact ⟨rfl, rfl, by assumption⟩
  · rintro ⟨rfl, rfl, h⟩
    exact .one h

/-- No stray character can be read. -/
theorem Reads.not_stray {b : Bool} {ls : List Lexeme} {ts : List Term} (h : Reads b ls ts)
    (c : Char) : .stray c ∉ ls := by
  induction h with
  | done => simp
  | blank _ ih | slash _ ih | power _ _ ih | plain _ _ ih | one _ ih => simp [ih]

theorem Reads.concat_blank {b : Bool} {ls : List Lexeme} {ts : List Term} (h : Reads b ls ts)
    (c : Char) : Reads b (ls ++ [.blank c]) ts := by
  induction h with
  | done => exact .blank .done
  | blank _ ih => exact .blank ih
  | slash _ ih => exact .slash ih
  | power he _ ih => exact .power he ih
  | @plain b w ls ts hx _ ih =>
    refine .plain (fun x more => ?_) ih
    cases ls with
    | nil => simp
    | cons l ls =>
      intro he
      exact hx x ls (by rw [(List.cons.inj he).1])
  | one _ ih => exact .one ih

/-- A blank at the end says nothing. -/
theorem reads_concat_blank {b : Bool} {c : Char} {ls : List Lexeme} {ts : List Term} :
    Reads b (ls ++ [.blank c]) ts ↔ Reads b ls ts := by
  refine ⟨fun h => ?_, fun h => h.concat_blank c⟩
  generalize he : ls ++ [.blank c] = all at h
  induction h generalizing ls with
  | done => simp at he
  | blank h ih =>
    cases ls with
    | nil =>
      obtain ⟨-, rfl⟩ := List.cons.inj he
      exact h
    | cons l ls =>
      obtain ⟨rfl, ht⟩ := List.cons.inj he
      exact .blank (ih ht)
  | slash _ ih =>
    cases ls with
    | nil => cases he
    | cons l ls =>
      obtain ⟨rfl, ht⟩ := List.cons.inj he
      exact .slash (ih ht)
  | power hd _ ih =>
    cases ls with
    | nil => cases he
    | cons l ls =>
      obtain ⟨rfl, ht⟩ := List.cons.inj he
      cases ls with
      | nil => cases ht
      | cons l ls =>
        obtain ⟨rfl, hr⟩ := List.cons.inj ht
        exact .power hd (ih hr)
  | plain hx _ ih =>
    cases ls with
    | nil => cases he
    | cons l ls =>
      obtain ⟨rfl, ht⟩ := List.cons.inj he
      refine .plain (fun x more hm => hx x (more ++ [.blank c]) ?_) (ih ht)
      subst hm
      exact ht.symm
  | one _ ih =>
    cases ls with
    | nil => cases he
    | cons l ls =>
      obtain ⟨rfl, ht⟩ := List.cons.inj he
      exact .one (ih ht)

end Metrology.Expression
