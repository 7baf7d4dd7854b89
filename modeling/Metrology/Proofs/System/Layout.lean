import Metrology.Proofs.Expression.Padding
import Metrology.Proofs.System.Meaning
import Metrology.Proofs.Text.Words

namespace Metrology

/-- Whether an outcome is that of another text: the same result, or the same failure but for the text
that it shows. -/
inductive Retold {α : Type} : Except Failure α → Except Failure α → Prop
  | ok (a : α) : Retold (.ok a) (.ok a)
  | error (failure : Failure) (text : String) :
      Retold (.error failure) (.error (failure.within text))

namespace Retold

variable {α β : Type} {x y : Except Failure α}

theorem refl (x : Except Failure α) : Retold x x := by
  cases x with
  | ok a => exact .ok a
  | error failure =>
    have hself : ∃ text, failure.within text = failure := by
      cases failure with
      | expression text fault => exact ⟨text, rfl⟩
      | _ => exact ⟨"", rfl⟩
    obtain ⟨text, ht⟩ := hself
    have h := Retold.error (α := α) failure text
    rwa [ht] at h

theorem eq_ok {a : α} (h : Retold (.ok a) y) : y = .ok a := by
  cases h with
  | ok a => rfl

theorem bind (h : Retold x y) (f : α → Except Failure β) : Retold (x >>= f) (y >>= f) := by
  cases h with
  | ok a => exact refl (f a)
  | error failure text => exact .error failure text

theorem map (h : Retold x y) (f : α → β) : Retold (x.map f) (y.map f) := by
  cases h with
  | ok a => exact .ok (f a)
  | error failure text => exact .error failure text

theorem mapError (x : Except Failure α) (text : String) :
    Retold x (x.mapError (·.within text)) := by
  cases x with
  | ok a => exact .ok a
  | error failure => exact .error failure text

end Retold

theorem Literal.ratio_failure {text : String} {failure : Failure}
    (h : ratio text = .error failure) : failure = .badValue ∨ failure = .divisionByZero := by
  unfold ratio at h
  grind

/-- The failures of a literal: it is no number of its kind, or it divides by zero. -/
theorem NumberKind.read_failure {kind : NumberKind} {text : String} {failure : Failure}
    (h : kind.read text = .error failure) :
    failure = .badValue ∨ failure = .divisionByZero ∨ failure = .decimalInvalid := by
  cases kind with
  | ratio =>
    rw [read] at h
    cases hr : Literal.ratio text with
    | ok q =>
      rw [hr] at h
      cases h
    | error other =>
      rw [hr] at h
      obtain rfl := Except.error.inj h
      exact (Literal.ratio_failure hr).imp_right .inl
  | _ =>
    rw [read] at h
    split at h
    · cases h
    · obtain rfl := Except.error.inj h
      simp

namespace UnitSystem

variable {s : UnitSystem} {n : Number}

/-- A literal and a unit with blanks around them. Nothing is asked of the unit, which may be
empty. -/
structure Layout where
  before : String
  literal : String
  between : String
  unit : String
  behind : String
  blank_before : ∀ c ∈ before.toList, Text.isBlank c = true
  solid : ∀ c ∈ literal.toList, Text.isBlank c = false
  nonempty : literal.toList ≠ []
  blank_between : ∀ c ∈ between.toList, Text.isBlank c = true
  apart : between.toList ≠ []
  blank_behind : ∀ c ∈ behind.toList, Text.isBlank c = true

namespace Layout

def text (l : Layout) : String :=
  l.before ++ l.literal ++ l.between ++ l.unit ++ l.behind

/-- What is left of the text behind the literal, and read as a unit. -/
def rest (l : Layout) : String :=
  String.ofList ((l.unit.toList ++ l.behind.toList).dropWhile Text.isBlank)

theorem firstWord? (l : Layout) :
    Text.firstWord? l.text.toList = some (l.literal.toList, l.rest.toList) := by
  have h := Text.firstWord?_laid_out (l.unit.toList ++ l.behind.toList) l.blank_before
    l.nonempty l.solid l.blank_between fun h => absurd h l.apart
  simp only [text, rest, String.toList_append, String.toList_ofList, List.append_assoc]
  exact h

/-- The rest is the unit but for blanks at its ends, which the scanner does not see. -/
theorem unit_retold (l : Layout) (s : UnitSystem) :
    Retold (s.unit l.unit) (s.unit l.rest) := by
  have hrun := Expression.scanRun_trimmed l.unit l.blank_behind
  have hterms := Expression.terms_of_scanRun hrun.symm
  unfold UnitSystem.unit Expression.unit
  refine Retold.bind ?_ _
  rw [rest, hterms]
  exact .mapError _ _

end Layout

theorem value_of_firstWord? {text : String} {word rest : List Char}
    (h : Text.firstWord? text.toList = some (word, rest))
    (hn : s.number.read (String.ofList word) = .ok n) :
    s.value text = (s.unit (String.ofList rest)).map fun u => ⟨.number n, u⟩ := by
  unfold value
  rw [h]
  dsimp only
  rw [hn]

/-- A literal and a unit with one space between them are read each on its own. -/
theorem value_spaced {literal rest : String} (hw : ∀ c ∈ literal.toList, Text.isBlank c = false)
    (hne : literal.toList ≠ []) (hr : ∀ c ∈ rest.toList.head?, Text.isBlank c = false)
    (hn : s.number.read literal = .ok n) :
    s.value (literal ++ " " ++ rest) = (s.unit rest).map fun u => ⟨.number n, u⟩ := by
  have hfirst := Text.firstWord?_append hne hw hr
  have ht : (literal ++ " " ++ rest).toList = literal.toList ++ ' ' :: rest.toList := by
    rw [String.toList_append, String.toList_append, List.append_assoc]
    rfl
  rw [← ht] at hfirst
  rw [value_of_firstWord? hfirst (by rwa [String.ofList_toList]), String.ofList_toList]

/-- A literal that cannot be read makes the text malformed, whatever unit it has. With one that can
be read, the text comes to the quantity of its number in the unit, or fails as the unit does. A text
without a word is malformed. -/
theorem value_layout (s : UnitSystem) :
    (∀ l : Layout,
      (∀ failure, s.number.read l.literal = .error failure →
        (failure = .badValue ∨ failure = .divisionByZero ∨ failure = .decimalInvalid) ∧
          s.value l.text = .error (.malformedValue l.text .literal)) ∧
      ∀ n, s.number.read l.literal = .ok n →
        Retold ((s.unit l.unit).map fun u => ⟨.number n, u⟩) (s.value l.text)) ∧
    ∀ text : String, (∀ c ∈ text.toList, Text.isBlank c = true) →
      s.value text = .error (.malformedValue text .empty) := by
  refine ⟨fun l => ⟨fun failure h => ⟨NumberKind.read_failure h, ?_⟩, fun n h => ?_⟩,
    fun text hblank => ?_⟩
  · unfold value
    rw [l.firstWord?]
    dsimp only
    rw [String.ofList_toList, h]
  · have hv := value_of_firstWord? l.firstWord? (by rwa [String.ofList_toList])
    rw [String.ofList_toList] at hv
    rw [hv]
    exact (l.unit_retold s).map _
  · unfold value
    rw [Text.firstWord?_blanks hblank]

/-- Five quarters of a metre over several lines. -/
def spread : Layout where
  before := "\n\u3000"
  literal := "5/4"
  between := "\u2003\t"
  unit := " m"
  behind := "\u0085 "
  blank_before := List.all_eq_true.mp (by decide)
  solid := Text.solid_of_all (by decide)
  nonempty := by decide
  blank_between := List.all_eq_true.mp (by decide)
  apart := by decide
  blank_behind := List.all_eq_true.mp (by decide)

theorem value_layout_spread :
    (∃ u : ProperUnit, compass.unit " m" = .ok u.unit ∧
      compass.value "\n\u30005/4\u2003\t m\u0085 " = .ok ⟨.number (.ratio (5 / 4)), u.unit⟩) ∧
    compass.value "5/0 m" = .error (.malformedValue "5/0 m" .literal) ∧
    compass.value "\n\t" = .error (.malformedValue "\n\t" .empty) := by
  obtain ⟨hlayout, hblank⟩ := value_layout compass
  obtain ⟨table, ht⟩ := proper_compass.exists_table
  have hm : compass.Resolves " m" [⟨"m", 1, false⟩] :=
    resolves_of_check (by decide +kernel) (by decide +kernel) (by decide +kernel)
  have hu := ht.unit_eq proper_compass.number hm
  have hread : compass.number.read "5/4" = .ok (.ratio (5 / 4)) := by
    have hq : Literal.ratio "5/4" = .ok (5 / 4) := by decide +kernel
    exact congrArg (Except.map Number.ratio) hq
  have hfail : compass.number.read "5/0" = .error .divisionByZero := by
    have hq : Literal.ratio "5/0" = .error .divisionByZero := by decide +kernel
    exact congrArg (Except.map Number.ratio) hq
  refine ⟨⟨_, hu, ?_⟩, ?_, hblank "\n\t" (List.all_eq_true.mp (by decide))⟩
  · have h := (hlayout spread).2 (.ratio (5 / 4)) hread
    change Retold ((compass.unit " m").map _) (compass.value "\n\u30005/4\u2003\t m\u0085 ") at h
    rw [hu] at h
    exact h.eq_ok
  · have h := (hlayout { spread with
      before := "", literal := "5/0", between := " ", unit := "m", behind := ""
      blank_before := List.all_eq_true.mp rfl, solid := Text.solid_of_all (by decide)
      nonempty := by decide, blank_between := List.all_eq_true.mp (by decide), apart := by decide
      blank_behind := List.all_eq_true.mp rfl }).1
        .divisionByZero hfail
    exact h.2

end UnitSystem

end Metrology
