import Metrology.Number.Kind
import Metrology.Operand.Text
import Metrology.Proofs.Expression.Spelling
import Metrology.Proofs.Number.IntegerText
import Metrology.Proofs.Text.Superscript

namespace Metrology

namespace Literal

/-- Of all numbers only zero begins with a zero. -/
theorem eq_zero_of_digits {n : Nat} {rest : List Char} (h : Nat.toDigits 10 n = '0' :: rest) :
    n = 0 := by
  induction n using Nat.strongRecOn generalizing rest with
  | ind n ih =>
    by_cases hn : n < 10
    · rw [Nat.toDigits_of_lt_base hn] at h
      exact Nat.digitChar_eq_zero.mp (List.cons.inj h).1
    · -- A number of more digits begins with the digits of its tens.
      rw [Nat.toDigits_of_base_le (by decide) (Nat.le_of_not_lt hn)] at h
      obtain ⟨d, ds, hd⟩ := List.exists_cons_of_ne_nil (Nat.toDigits_ne_nil (n := n / 10) (b := 10))
      rw [hd, List.cons_append] at h
      obtain ⟨rfl, -⟩ := List.cons.inj h
      have htens := ih (n / 10) (by omega) hd
      omega

theorem natOfDigits_concat (ds : List Char) {k : Nat} (hk : k < 10) :
    natOfDigits (ds ++ [Nat.digitChar k]) = 10 * natOfDigits ds + k := by
  rw [natOfDigits, Nat.ofDigitChars_append, Nat.ofDigitChars_cons_digitChar_of_lt_ten hk,
    Nat.ofDigitChars_nil]
  rfl

/-- Digits are those of their number, unless they begin with a zero that could be left out. -/
theorem toDigits_natOfDigits {ds : List Char} (hn : ds ≠ []) (hd : ∀ d ∈ ds, d.isDigit = true)
    (hz : ∀ rest, ds = '0' :: rest → rest = []) : Nat.toDigits 10 (natOfDigits ds) = ds := by
  induction ds using List.reverseRecOn with
  | nil => contradiction
  | append_singleton ds d ih =>
    obtain ⟨k, hk, rfl⟩ := digitChar_of_isDigit (hd d (by simp))
    rw [natOfDigits_concat ds hk]
    by_cases hnil : ds = []
    · subst hnil
      have hnone : natOfDigits [] = 0 := Nat.ofDigitChars_nil
      rw [hnone, Nat.mul_zero, Nat.zero_add, Nat.toDigits_of_lt_base hk]
      rfl
    · have hfront : ∀ rest, ds ≠ '0' :: rest := by
        rintro rest rfl
        simpa using hz _ (List.cons_append ..)
      have hdigits := ih hnil (fun d hm => hd d (by simp [hm])) fun rest he => absurd he (hfront rest)
      have hpos : 0 < natOfDigits ds := by
        refine Nat.pos_of_ne_zero fun h0 => hfront [] ?_
        rw [← hdigits, h0]
        rfl
      rw [← Nat.toDigits_append_toDigits (by decide) hpos hk, hdigits, Nat.toDigits_of_lt_base hk]

end Literal

namespace Expression

/-- Whether no zero stands in front of other digits or behind the sign. -/
def Sparing (run : List Char) : Prop :=
  ∀ rest, run = '0' :: rest ∨ run = '-' :: '0' :: rest → run = ['0']

theorem sparing_integerChars (n : Int) : Sparing (Literal.integerChars n) := by
  intro rest h
  rw [Literal.integerChars] at h ⊢
  by_cases hn : n < 0
  · rw [if_pos hn, List.singleton_append] at h
    rcases h with h | h
    · obtain ⟨he, -⟩ := List.cons.inj h
      contradiction
    · have h0 := Literal.eq_zero_of_digits (List.cons.inj h).2
      omega
  · rw [if_neg hn, List.nil_append] at h ⊢
    rcases h with h | h
    · rw [Literal.eq_zero_of_digits h]
      rfl
    · have hminus := Literal.isDigit_digits (h ▸ List.mem_cons_self)
      contradiction

/-- Of all runs for an integer only the one that is written wastes no zero. -/
theorem Denotes.eq_integerChars {run : List Char} {n : Int} (h : Denotes run n)
    (hs : Sparing run) : run = Literal.integerChars n := by
  obtain ⟨ds, hn, hd, -, ⟨rfl, he⟩ | ⟨rfl, he⟩⟩ := h
  · have hdigits := Literal.toDigits_natOfDigits hn hd fun rest hr =>
      (List.cons.inj (hr.symm.trans (hs rest (.inl hr)))).2
    rw [Literal.natOfDigits] at hdigits
    rw [Literal.integerChars, if_neg (by omega), he, Int.natAbs_natCast, hdigits]
    rfl
  · have hfront : ∀ rest, ds ≠ '0' :: rest := by
      rintro rest rfl
      simpa using hs rest (.inr rfl)
    have hdigits := Literal.toDigits_natOfDigits hn hd fun rest hr => absurd hr (hfront rest)
    rw [Literal.natOfDigits] at hdigits
    have hpos : Nat.ofDigitChars 10 ds 0 ≠ 0 := by
      intro h0
      rw [h0] at hdigits
      exact hfront [] hdigits.symm
    rw [Literal.integerChars, if_pos (by omega), he, Int.natAbs_neg, Int.natAbs_natCast, hdigits]
    rfl

/-- A minus sign stands in front only. -/
theorem isDigit_tail_integerChars {n : Int} {c : Char} (h : c ∈ (Literal.integerChars n).tail) :
    c.isDigit = true := by
  rw [Literal.integerChars] at h
  refine Literal.isDigit_digits (n := n.natAbs) ?_
  split at h
  · exact h
  · exact List.mem_of_mem_tail h

theorem kept_of_isExponentChar {c : Char} (h : isExponentChar c = true) : Literal.Kept c := by
  rcases Bool.or_eq_true .. |>.mp h with h | h
  · exact Literal.kept_of_isDigit h
  · obtain rfl := eq_of_beq h
    decide

end Expression

/-- An integer in superscript glyphs: the minus glyph, if there is one, stands in front, and a zero
glyph stands neither in front of others nor behind the minus. -/
structure SuperscriptNumeral (text : String) : Prop where
  glyphs : ∀ c ∈ text.toList, Text.IsGlyph c
  minus_first : '⁻' ∉ text.toList.tail
  zero_alone : ∀ rest, text.toList = '⁰' :: rest ∨ text.toList = '⁻' :: '⁰' :: rest → text = "⁰"

open Expression

theorem fromSuperscript_toString (n : Int) :
    Text.fromSuperscript (Text.toSuperscript (toString n)) = toString n := by
  rw [← String.toList_inj, Text.fromSuperscript, String.toList_ofList, toList_toSuperscript,
    lower_raised, Literal.toList_toString]

theorem superscriptNumeral_toString (n : Int) :
    SuperscriptNumeral (Text.toSuperscript (toString n)) where
  glyphs := by
    intro g hg
    rw [toList_toSuperscript] at hg
    obtain ⟨c, hc, rfl⟩ := List.mem_map.mp hg
    exact Text.isGlyph_iff.mpr (raise_exponentChar (isExponentChar_integerChars c hc)).1
  minus_first := by
    intro hg
    rw [toList_toSuperscript, raised, ← List.map_tail] at hg
    obtain ⟨c, hc, hr⟩ := List.mem_map.mp hg
    have hd := isDigit_tail_integerChars hc
    have hl := (raise_exponentChar (isExponentChar_of_isDigit hd)).2.1
    rw [hr] at hl
    rw [← hl] at hd
    exact absurd hd (by decide)
  zero_alone := by
    intro rest h
    rw [toList_toSuperscript] at h
    have hzero : Literal.integerChars n = ['0'] := by
      refine sparing_integerChars n (rest.map Text.lower) ?_
      rw [← lower_raised]
      rcases h with h | h
      · exact .inl (congrArg (List.map Text.lower) h)
      · exact .inr (congrArg (List.map Text.lower) h)
    rw [← String.toList_inj, toList_toSuperscript, raised, hzero]
    rfl

variable {text : String} {n : Int}

namespace SuperscriptNumeral

theorem toSuperscript_fromSuperscript (h : SuperscriptNumeral text) :
    Text.toSuperscript (Text.fromSuperscript text) = text := by
  rw [Text.toSuperscript_fromSuperscript, Text.toSuperscript_of_glyphs h.glyphs]

theorem isExponentChar_fromSuperscript (h : SuperscriptNumeral text) :
    ∀ c ∈ (Text.fromSuperscript text).toList, isExponentChar c = true := by
  intro c hc
  rw [Text.fromSuperscript, String.toList_ofList] at hc
  obtain ⟨g, hg, rfl⟩ := List.mem_map.mp hc
  obtain ⟨pair, hm, rfl⟩ := Text.isGlyph_iff.mp (h.glyphs g hg)
  obtain ⟨-, -, -, hl, -⟩ := Text.glyphs_paired pair hm
  rw [hl]
  exact glyphs_plain pair hm

theorem sparing_fromSuperscript (h : SuperscriptNumeral text) :
    Sparing (Text.fromSuperscript text).toList := by
  intro rest hz
  have htext : text.toList = (Text.fromSuperscript text).toList.map Text.raise := by
    conv_lhs => rw [← h.toSuperscript_fromSuperscript, Text.toSuperscript, String.toList_ofList]
  have hzero : text = "⁰" := by
    refine h.zero_alone (rest.map Text.raise) ?_
    rw [htext]
    rcases hz with hz | hz
    · exact .inl (congrArg (List.map Text.raise) hz)
    · exact .inr (congrArg (List.map Text.raise) hz)
  rw [hzero]
  decide

/-- What is lowered to a literal of an integer is the text that the integer is written as. -/
theorem eq_toSuperscript (h : SuperscriptNumeral text)
    (hn : Literal.int? (Text.fromSuperscript text) = some n) :
    text = Text.toSuperscript (toString n) := by
  have hchars := h.isExponentChar_fromSuperscript
  rw [Literal.int?_of_kept fun c hc => kept_of_isExponentChar (hchars c hc),
    integer?_iff hchars] at hn
  have hplain : Text.fromSuperscript text = toString n := by
    rw [← String.toList_inj, Literal.toList_toString]
    exact hn.eq_integerChars h.sparing_fromSuperscript
  rw [← hplain, h.toSuperscript_fromSuperscript]

end SuperscriptNumeral

theorem read_int_iff : NumberKind.int.read text = .ok (.int n) ↔ Literal.int? text = some n := by
  rw [NumberKind.read]
  cases Literal.int? text <;> simp

theorem Operand.superscript_int (n : Int) :
    (Operand.number (.int n)).superscript = superscriptText n := by
  change Except.bind (Except.ok n) superscriptText = _
  rw [Except.bind]

/-- A truth value is written as the integer that it counts as. -/
theorem Operand.superscript_integer {x : Operand} (h : x.integer? = some n) :
    x.superscript = superscriptText n := by
  rw [← superscript_int]
  cases x with
  | bool b =>
    obtain rfl := Option.some.inj h
    rfl
  | number k =>
    cases k with
    | int k => rw [Option.some.inj h]
    | _ => cases h
  | _ => cases h

/-- An integer that can be written is written as the only numeral of superscript glyphs that decodes
to it. A text that has been raised is lowered as it would have been at first, and the other way
round, so that it comes back as it was just if it has no glyphs. -/
theorem superscripts_decode :
    (∀ (x : Operand) (n : Int), x.integer? = some n → WritableInt n →
      ∃ text, x.superscript = .ok text ∧ SuperscriptNumeral text ∧
        NumberKind.int.read (Text.fromSuperscript text) = .ok (.int n) ∧
        ∀ other, SuperscriptNumeral other →
          NumberKind.int.read (Text.fromSuperscript other) = .ok (.int n) → other = text) ∧
    ∀ text : String,
      Text.fromSuperscript (Text.toSuperscript text) = Text.fromSuperscript text ∧
      Text.toSuperscript (Text.fromSuperscript text) = Text.toSuperscript text ∧
      (Text.fromSuperscript (Text.toSuperscript text) = text ↔
        ∀ c ∈ text.toList, ¬Text.IsGlyph c) := by
  constructor
  · intro x n hx hw
    refine ⟨Text.toSuperscript (toString n), ?_, superscriptNumeral_toString n, ?_, ?_⟩
    · rw [Operand.superscript_integer hx, superscriptText_ok hw]
    · rw [read_int_iff, fromSuperscript_toString, Literal.int?_toString hw]
    · intro other ho hr
      exact ho.eq_toSuperscript (read_int_iff.mp hr)
  · intro text
    refine ⟨Text.fromSuperscript_toSuperscript text, Text.toSuperscript_fromSuperscript text, ?_⟩
    rw [Text.fromSuperscript_toSuperscript, Text.fromSuperscript_eq_self_iff]

/-- A loss of one hundred, and a text in which a glyph stands beside plain digits. -/
theorem superscripts_decode_loss :
    (Operand.int (-100)).integer? = some (-100) ∧ WritableInt (-100) ∧
      (Operand.int (-100)).superscript = .ok "⁻¹⁰⁰" ∧
      NumberKind.int.read (Text.fromSuperscript "⁻¹⁰⁰") = .ok (.int (-100)) ∧
      Text.toSuperscript (Text.fromSuperscript "kg-2 m³") = Text.toSuperscript "kg-2 m³" ∧
      Text.fromSuperscript (Text.toSuperscript "kg-2 m³") ≠ "kg-2 m³" := by
  have hw : WritableInt (-100) := by decide +kernel
  have hglyphs : "⁻¹⁰⁰".toList.all (fun c => decide (Text.IsGlyph c)) = true := by decide
  have hnumeral : SuperscriptNumeral "⁻¹⁰⁰" := by
    refine ⟨fun c hc => of_decide_eq_true (List.all_eq_true.mp hglyphs c hc), by decide, ?_⟩
    rintro rest (h | h)
    · cases h
    · cases h
  have hread : NumberKind.int.read (Text.fromSuperscript "⁻¹⁰⁰") = .ok (.int (-100)) :=
    read_int_iff.mpr (by decide +kernel)
  obtain ⟨text, htext, -, -, honly⟩ := superscripts_decode.1 (.int (-100)) (-100) rfl hw
  rw [← honly _ hnumeral hread] at htext
  obtain ⟨-, hraised, hback⟩ := superscripts_decode.2 "kg-2 m³"
  refine ⟨rfl, hw, htext, hread, hraised, ?_⟩
  rw [Ne, hback]
  exact fun hplain => hplain '³' (by decide) (by decide)

end Metrology
