import Mathlib.Data.List.TakeWhile
import Mathlib.Data.Rat.Defs
import Metrology.Proofs.Dimension.Writable
import Metrology.Proofs.Text.Classes

namespace Metrology.Literal

/-- A character of the text of a fraction. -/
def Figure (c : Char) : Prop :=
  c.isDigit = true ∨ c = '-' ∨ c = '/'

theorem digitChar_of_isDigit {c : Char} (h : c.isDigit = true) :
    ∃ n < 10, c = Nat.digitChar n := by
  obtain ⟨hl, hu⟩ := Char.isDigit_iff_toNat.mp h
  change 48 ≤ c.toNat at hl
  change c.toNat ≤ 57 at hu
  refine ⟨c.toNat - 48, by omega, Char.toNat_inj.mp ?_⟩
  rw [Nat.toNat_digitChar_of_lt_ten (by omega)]
  omega

/-- Whether a character of a literal is read as it stands. -/
def Kept (c : Char) : Prop :=
  Text.isBlank c = false ∧ plainChar c = c ∧ c ≠ '_'

instance (c : Char) : Decidable (Kept c) :=
  inferInstanceAs (Decidable (_ ∧ _))

theorem kept_of_isDigit {c : Char} (h : c.isDigit = true) : Kept c := by
  obtain ⟨n, hn, rfl⟩ := digitChar_of_isDigit h
  have hall : ∀ n < 10, Kept (Nat.digitChar n) := by
    decide
  exact hall n hn

theorem Figure.kept {c : Char} (h : Figure c) : Kept c := by
  rcases h with h | rfl | rfl
  · exact kept_of_isDigit h
  · decide
  · decide

theorem trim_eq {blank : Char → Bool} {cs : List Char} (h : ∀ c ∈ cs, blank c = false) :
    trim blank cs = cs := by
  have hd (ds : List Char) (hs : ∀ c ∈ ds, blank c = false) : ds.dropWhile blank = ds := by
    cases ds with
    | nil => rfl
    | cons d ds => rw [List.dropWhile_cons, hs d (by simp)]; rfl
  rw [trim, hd cs h, hd cs.reverse (by simpa using h), List.reverse_reverse]

theorem plain_eq {text : String} (h : ∀ c ∈ text.toList, Kept c) : plain text = text.toList := by
  rw [plain, trim_eq fun c hc => (h c hc).1]
  exact (List.map_congr_left fun c hc => (h c hc).2.1).trans (List.map_id _)

theorem ungroup_eq {cs : List Char} (h : '_' ∉ cs) (afterDigit : Bool) :
    ungroup afterDigit cs = some cs := by
  induction cs generalizing afterDigit with
  | nil => rfl
  | cons c cs ih =>
    obtain ⟨hc, hs⟩ := List.ne_and_not_mem_of_not_mem_cons h
    rw [ungroup.eq_3 _ _ _ hc.symm, ih hs]
    rfl

theorem isDigit_digits {n : Nat} {c : Char} (h : c ∈ Nat.toDigits 10 n) : c.isDigit = true :=
  Nat.isDigit_of_mem_toDigits (by decide) (by decide) h

theorem length_digits_le {n k : Nat} (hk : 0 < k) (h : n < pow10 k) :
    (Nat.toDigits 10 n).length ≤ k :=
  (Nat.length_toDigits_le_iff (by decide) hk).mpr h

theorem length_digits {n : Int} (h : WritableInt n) :
    (Nat.toDigits 10 n.natAbs).length ≤ digitLimit :=
  length_digits_le (by decide) h

theorem natural?_digits (n : Nat) : natural? (Nat.toDigits 10 n) = some n := by
  have hall : (Nat.toDigits 10 n).all Char.isDigit = true :=
    List.all_eq_true.mpr fun c hc => isDigit_digits hc
  rw [natural?, if_pos ⟨Nat.toDigits_ne_nil, hall⟩, natOfDigits, Nat.ofDigitChars_ten_toDigits]

/-- The characters of an integer: a minus sign or none, and digits. -/
def integerChars (n : Int) : List Char :=
  (if n < 0 then ['-'] else []) ++ Nat.toDigits 10 n.natAbs

theorem toList_toString (n : Int) : (toString n).toList = integerChars n := by
  cases n with
  | ofNat m =>
    change m.repr.toList = _
    rw [Nat.toList_repr]
    rfl
  | negSucc m =>
    change ("-" ++ (m + 1).repr).toList = _
    rw [String.toList_append, Nat.toList_repr, integerChars, if_pos (Int.negSucc_lt_zero m)]
    rfl

theorem figure_integerChars (n : Int) : ∀ c ∈ integerChars n, Figure c := by
  intro c hc
  rcases List.mem_append.mp hc with hs | hd
  · split at hs
    · exact .inr (.inl (List.mem_singleton.mp hs))
    · cases hs
  · exact .inl (isDigit_digits hd)

theorem splitSign_digit {c : Char} (h : c.isDigit = true) (cs : List Char) :
    splitSign (c :: cs) = (false, c :: cs) := by
  unfold splitSign
  split
  · rename_i he
    obtain ⟨rfl, -⟩ := List.cons.inj he
    contradiction
  · rename_i he
    obtain ⟨rfl, -⟩ := List.cons.inj he
    contradiction
  · rfl

theorem splitSign_integerChars (n : Int) (cs : List Char) :
    splitSign (integerChars n ++ cs) = (decide (n < 0), Nat.toDigits 10 n.natAbs ++ cs) := by
  by_cases h : n < 0
  · rw [integerChars, if_pos h, decide_eq_true h]
    rfl
  · rw [integerChars, if_neg h, decide_eq_false h, List.nil_append]
    obtain ⟨d, ds, hd⟩ := List.exists_cons_of_ne_nil (Nat.toDigits_ne_nil (n := n.natAbs) (b := 10))
    rw [hd]
    exact splitSign_digit (isDigit_digits (hd ▸ List.mem_cons_self)) _

theorem applySign_natAbs (n : Int) : applySign (decide (n < 0)) n.natAbs = n := by
  unfold applySign
  split <;> rename_i h <;> simp only [decide_eq_true_eq] at h <;> omega

theorem ofChars?_digits (n : Nat) :
    Numeral.ofChars? (Nat.toDigits 10 n) = some ⟨Nat.toDigits 10 n, [], [], false⟩ := by
  have ht : (Nat.toDigits 10 n).takeWhile Char.isDigit = Nat.toDigits 10 n :=
    List.takeWhile_eq_self_iff.mpr fun c hc => isDigit_digits hc
  have hd : (Nat.toDigits 10 n).dropWhile Char.isDigit = [] :=
    List.dropWhile_eq_nil_iff.mpr fun c hc => isDigit_digits hc
  simp [Numeral.ofChars?, ht, hd, Nat.toDigits_ne_nil, Numeral.ofExponent?]

theorem slash_not_mem_digits (n : Nat) : '/' ∉ Nat.toDigits 10 n := by
  intro h
  exact absurd (isDigit_digits h) (by decide)

theorem ungroup_plain {text : String} (h : ∀ c ∈ text.toList, Kept c) :
    ungroup false (plain text) = some text.toList := by
  rw [plain_eq h]
  exact ungroup_eq (fun hm => (h _ hm).2.2 rfl) false

theorem figure_toString (n : Int) : ∀ c ∈ (toString n).toList, Figure c :=
  toList_toString n ▸ figure_integerChars n

/-- Without a slash the text is a numeral without a point or an exponent. -/
theorem ratio_integer {n : Int} (h : WritableInt n) : ratio (toString n) = .ok n := by
  have hf := figure_toString n
  have hs := splitSign_integerChars n []
  rw [List.append_nil, List.append_nil] at hs
  have hc : (Nat.toDigits 10 n.natAbs).contains '/' = false := by
    simpa using slash_not_mem_digits n.natAbs
  have hl : Numeral.withinLimit ⟨Nat.toDigits 10 n.natAbs, [], [], false⟩ = true := by
    simp [Numeral.withinLimit, length_digits h]
  have hcoef : Numeral.coefficient ⟨Nat.toDigits 10 n.natAbs, [], [], false⟩ = n.natAbs := by
    rw [Numeral.coefficient, List.append_nil, natOfDigits, Nat.ofDigitChars_ten_toDigits]
  have hscale : Numeral.scale ⟨Nat.toDigits 10 n.natAbs, [], [], false⟩ = 0 := rfl
  rw [ratio, ungroup_plain fun c hc => (hf c hc).kept, toList_toString]
  dsimp only
  rw [hs]
  dsimp only
  rw [hc, if_neg (by decide), ofChars?_digits]
  dsimp only
  rw [if_pos hl, hcoef, hscale, applySign_natAbs]
  change Except.ok (mkRat (n * 1) 1) = _
  rw [Int.mul_one, Rat.mkRat_one]

theorem figure_fraction (q : Rat) :
    ∀ c ∈ (toString q.num ++ "/" ++ toString (q.den : Int)).toList, Figure c := by
  intro c hc
  rw [String.toList_append, String.toList_append, List.append_assoc] at hc
  rcases List.mem_append.mp hc with h | h
  · exact figure_toString q.num c h
  · rcases List.mem_append.mp h with h | h
    · exact .inr (.inr (List.mem_singleton.mp h))
    · exact figure_toString q.den c h

theorem ratio_fraction {q : Rat} (hn : WritableInt q.num) (hd : WritableInt q.den) :
    ratio (toString q.num ++ "/" ++ toString (q.den : Int)) = .ok q := by
  have hden : integerChars (q.den : Int) = Nat.toDigits 10 q.den := by
    rw [integerChars, if_neg (by omega)]
    rfl
  have ht : (toString q.num ++ "/" ++ toString (q.den : Int)).toList =
      integerChars q.num ++ '/' :: Nat.toDigits 10 q.den := by
    rw [String.toList_append, String.toList_append, toList_toString, toList_toString, hden,
      List.append_assoc]
    rfl
  have hf := figure_fraction q
  have hne : ∀ c ∈ Nat.toDigits 10 q.num.natAbs, (decide (c ≠ '/')) = true := by
    intro c hc
    exact decide_eq_true fun h => slash_not_mem_digits _ (h ▸ hc)
  rw [ratio, ungroup_plain fun c hc => (hf c hc).kept, ht]
  dsimp only
  rw [splitSign_integerChars]
  dsimp only
  rw [if_pos (by simp), List.takeWhile_append_of_pos hne, List.dropWhile_append_of_pos hne]
  simp only [List.takeWhile_cons, List.dropWhile_cons, ne_eq, not_true_eq_false, decide_false,
    Bool.false_eq_true, if_false, List.append_nil, List.drop_succ_cons, List.drop_zero]
  rw [natural?_digits, natural?_digits]
  dsimp only
  rw [if_neg (by
    rintro (h | h)
    · exact absurd (length_digits hn) (Nat.not_le.mpr h)
    · exact absurd (length_digits hd) (Nat.not_le.mpr h)), if_neg q.den_nz, applySign_natAbs,
    Rat.mkRat_self]

end Metrology.Literal

namespace Metrology

/-- Whether the integers of a fraction keep within the limit of digits. -/
def WritableRat (q : Rat) : Prop :=
  WritableInt q.num ∧ WritableInt q.den

instance (q : Rat) : Decidable (WritableRat q) :=
  inferInstanceAs (Decidable (_ ∧ _))

/-- A fraction has a text of figures that reads back, if its integers can be written. -/
theorem ratioText_ok {q : Rat} (h : WritableRat q) :
    ∃ text, ratioText q = .ok text ∧ Literal.ratio text = .ok q ∧
      (∀ c ∈ text.toList, Literal.Figure c) ∧ text.toList ≠ [] := by
  obtain ⟨hn, hd⟩ := h
  by_cases h1 : q.den = 1
  · refine ⟨toString q.num, ?_, ?_, Literal.figure_toString q.num, ?_⟩
    · rw [ratioText, integerText_ok hn]
      exact if_pos h1
    · rw [Literal.ratio_integer hn, Rat.coe_int_num_of_den_eq_one h1]
    · rw [Literal.toList_toString, Literal.integerChars]
      exact List.append_ne_nil_of_right_ne_nil _ Nat.toDigits_ne_nil
  · refine ⟨_, ?_, Literal.ratio_fraction hn hd, Literal.figure_fraction q, ?_⟩
    · rw [ratioText, integerText_ok hn, integerText_ok hd]
      exact if_neg h1
    · rw [String.toList_append, String.toList_append]
      simp

theorem ratioText_error {q : Rat} (h : ¬WritableRat q) : ratioText q = .error .badValue := by
  rw [ratioText]
  by_cases hn : WritableInt q.num
  · have hd : ¬WritableInt q.den := fun hd => h ⟨hn, hd⟩
    have h1 : q.den ≠ 1 := fun h1 => hd (by rw [h1]; exact writableInt_of_small (by decide))
    rw [integerText_ok hn, integerText_error hd]
    exact if_neg h1
  · rw [integerText_error hn]
    rfl

/-- A power of ten with one zero too many. -/
theorem not_writableRat_pow10 {n : Nat} (h : Literal.digitLimit ≤ n) :
    ¬WritableRat (pow10 n : Rat) := by
  rintro ⟨hn, -⟩
  rw [WritableInt, Rat.num_natCast, Int.natAbs_natCast] at hn
  exact absurd (pow10_le h) (Nat.not_le.mpr hn)

end Metrology
