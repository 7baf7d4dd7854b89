import Metrology.Number.Text
import Metrology.Proofs.Number.RatioText

namespace Metrology

namespace Literal

namespace Numeral

/-- Whether the parts of a numeral are digits, and none is missing that it takes. -/
structure Sound (n : Numeral) : Prop where
  nonempty : n.whole ≠ []
  whole : ∀ c ∈ n.whole, c.isDigit = true
  fraction : ∀ c ∈ n.fraction, c.isDigit = true
  exponent : ∀ c ∈ n.exponent, c.isDigit = true
  upright : n.exponent = [] → n.negativeExponent = false

/-- A fraction behind its point. -/
def pointChars (fraction : List Char) : List Char :=
  if fraction = [] then [] else '.' :: fraction

def exponentChars (negative : Bool) (digits : List Char) : List Char :=
  if digits = [] then [] else 'E' :: (if negative then '-' else '+') :: digits

def chars (n : Numeral) : List Char :=
  n.whole ++ (pointChars n.fraction ++ exponentChars n.negativeExponent n.exponent)

variable {n : Numeral} {tail : List Char}

theorem not_isDigit_exponentChars (negative : Bool) (digits : List Char) :
    ∀ c ∈ (exponentChars negative digits).head?, c.isDigit = false := by
  unfold exponentChars
  split
  · simp
  · intro c hc
    obtain rfl := Option.some.inj hc
    decide

/-- Digits end where a character is none. -/
theorem span_digits {ds tail : List Char} (hd : ∀ c ∈ ds, c.isDigit = true)
    (ht : ∀ c ∈ tail.head?, c.isDigit = false) :
    (ds ++ tail).takeWhile Char.isDigit = ds ∧ (ds ++ tail).dropWhile Char.isDigit = tail := by
  have hend : tail.takeWhile Char.isDigit = [] ∧ tail.dropWhile Char.isDigit = tail := by
    cases tail with
    | nil => exact ⟨rfl, rfl⟩
    | cons c cs => simp [ht c rfl]
  rw [List.takeWhile_append_of_pos hd, List.dropWhile_append_of_pos hd, hend.1, hend.2,
    List.append_nil]
  exact ⟨rfl, rfl⟩

theorem ofExponent?_chars (h : n.Sound) :
    ofExponent? n.whole n.fraction (exponentChars n.negativeExponent n.exponent) = some n := by
  unfold exponentChars
  split
  · rename_i he
    obtain ⟨whole, fraction, digits, negative⟩ := n
    obtain rfl : digits = [] := he
    obtain rfl : negative = false := h.upright rfl
    rfl
  · rename_i he
    have hsign : splitSign ((if n.negativeExponent then '-' else '+') :: n.exponent) =
        (n.negativeExponent, n.exponent) := by
      cases n.negativeExponent <;> rfl
    unfold ofExponent?
    dsimp only
    rw [hsign]
    exact if_pos ⟨by decide, he, List.all_eq_true.mpr h.exponent⟩

theorem ofChars?_chars (h : n.Sound) : ofChars? n.chars = some n := by
  have hexponent := not_isDigit_exponentChars n.negativeExponent n.exponent
  have hread := ofExponent?_chars h
  by_cases hf : n.fraction = []
  · obtain ⟨ht, hd⟩ := span_digits h.whole hexponent
    have hpoint : ∀ more, exponentChars n.negativeExponent n.exponent ≠ '.' :: more := by
      intro more he
      unfold exponentChars at he
      split at he
      · cases he
      · have := (List.cons.inj he).1
        revert this
        decide
    rw [chars, hf, pointChars, if_pos rfl, List.nil_append, ofChars?, ht, hd,
      if_neg fun hn => h.nonempty hn.1]
    rw [hf] at hread
    split
    · rename_i more he
      exact absurd he (hpoint more)
    · exact hread
  · have hpoint : ∀ c ∈ ('.' :: (n.fraction ++
        exponentChars n.negativeExponent n.exponent)).head?, c.isDigit = false := by
      simp
    obtain ⟨ht, hd⟩ := span_digits h.whole hpoint
    obtain ⟨ht', hd'⟩ := span_digits h.fraction hexponent
    rw [chars, pointChars, if_neg hf, List.cons_append, ofChars?, ht, hd,
      if_neg fun hn => h.nonempty hn.1]
    change ofExponent? n.whole (List.takeWhile Char.isDigit _) (List.dropWhile Char.isDigit _) = _
    rw [ht', hd']
    exact hread

end Numeral

/-- Zeros in front of digits do not count. -/
theorem natOfDigits_zeros (k : Nat) (ds : List Char) :
    natOfDigits (List.replicate k '0' ++ ds) = natOfDigits ds := by
  rw [natOfDigits, Nat.ofDigitChars_append, Nat.ofDigitChars_replicate_zero, Nat.mul_zero]
  rfl

theorem natOfDigits_toDigits (n : Nat) : natOfDigits (Nat.toDigits 10 n) = n :=
  Nat.ofDigitChars_ten_toDigits

end Literal

namespace Decimal

open Literal Numeral

/-- A point among digits, or at their end, parts them into a whole and a fraction. A point in front
of them has zeros in between. -/
theorem pointed_eq {ds : List Char} (hn : ds ≠ []) (hd : ∀ c ∈ ds, c.isDigit = true) {place : Int}
    (hp : place ≤ ds.length) :
    ∃ whole fraction, pointed ds place = whole ++ pointChars fraction ∧ whole ≠ [] ∧
      (∀ c ∈ whole, c.isDigit = true) ∧ (∀ c ∈ fraction, c.isDigit = true) ∧
      natOfDigits (whole ++ fraction) = natOfDigits ds ∧
      (fraction.length : Int) = ds.length - place := by
  by_cases h0 : place ≤ 0
  · refine ⟨['0'], List.replicate (-place).toNat '0' ++ ds, ?_, by simp, by simp, ?_, ?_, ?_⟩
    · rw [pointed, if_pos h0, pointChars, if_neg (by simp [hn])]
      simp
    · intro c hc
      rcases List.mem_append.mp hc with hz | hc
      · rw [List.eq_of_mem_replicate hz]
        rfl
      · exact hd c hc
    · exact natOfDigits_zeros ((-place).toNat + 1) ds
    · rw [List.length_append, List.length_replicate]
      omega
  by_cases hl : (ds.length : Int) ≤ place
  · refine ⟨ds, [], ?_, hn, hd, by simp, by simp, by simp; omega⟩
    rw [pointed, if_neg h0, if_pos hl, pointChars, if_pos rfl,
      show place.toNat - ds.length = 0 by omega]
    rfl
  · have hlength : (ds.drop place.toNat).length = ds.length - place.toNat := List.length_drop
    refine ⟨ds.take place.toNat, ds.drop place.toNat, ?_, ?_, fun c hc => hd c (List.mem_of_mem_take hc),
      fun c hc => hd c (List.mem_of_mem_drop hc), by rw [List.take_append_drop], by omega⟩
    · have hdrop : ds.drop place.toNat ≠ [] := by
        intro he
        rw [he, List.length_nil] at hlength
        omega
      rw [pointed, if_neg h0, if_neg hl, pointChars, if_neg hdrop]
    · intro he
      have htake := congrArg List.length he
      rw [List.length_take, List.length_nil] at htake
      omega

theorem signedExponent_eq (x : Int) :
    signedExponent 1 x = (if decide (x < 0) then '-' else '+') :: Nat.toDigits 10 x.natAbs := by
  have hpos := digitCount_pos x.natAbs
  have hzeros : 1 - (Nat.toDigits 10 x.natAbs).length = 0 := by
    unfold digitCount at hpos
    omega
  unfold signedExponent
  dsimp only
  rw [hzeros]
  simp

/-- Both layouts of a decimal put the point at some place, and an exponent makes up for it. -/
theorem numeral_eq (c : Nat) (e : Int) :
    ∃ place x : Int, place ≤ (Nat.toDigits 10 c).length ∧
      x + place = e + (Nat.toDigits 10 c).length ∧
      numeral c e = pointed (Nat.toDigits 10 c) place ++
        if x = 0 then [] else 'E' :: signedExponent 1 x := by
  have hpos := digitCount_pos c
  unfold digitCount at hpos
  unfold numeral
  dsimp only
  split
  · rename_i h
    exact ⟨e + (Nat.toDigits 10 c).length, 0, by omega, by omega, by simp⟩
  · refine ⟨1, e + (Nat.toDigits 10 c).length - 1, by omega, by omega, ?_⟩
    by_cases h1 : e + ((Nat.toDigits 10 c).length : Int) = 1
    · rw [if_pos h1, if_pos (by omega)]
    · rw [if_neg h1, if_neg (by omega)]

/-- The text of a decimal without its sign is that of a numeral with the same coefficient and the
same exponent. -/
theorem exists_numeral (c : Nat) (e : Int) :
    ∃ n : Numeral, n.Sound ∧ numeral c e = n.chars ∧ n.coefficient = c ∧ n.scale = e := by
  obtain ⟨place, x, hplace, hsum, hchars⟩ := numeral_eq c e
  obtain ⟨whole, fraction, hpointed, hne, hwhole, hfraction, hvalue, hlength⟩ :=
    pointed_eq Nat.toDigits_ne_nil (fun _ => isDigit_digits) hplace
  rw [natOfDigits_toDigits] at hvalue
  by_cases hx : x = 0
  · refine ⟨⟨whole, fraction, [], false⟩, ⟨hne, hwhole, hfraction, by simp, fun _ => rfl⟩, ?_,
      hvalue, ?_⟩
    · rw [hchars, hpointed, if_pos hx]
      simp [Numeral.chars, exponentChars]
    · change applySign false (natOfDigits []) - (fraction.length : Int) = e
      change (0 : Int) - (fraction.length : Int) = e
      omega
  · refine ⟨⟨whole, fraction, Nat.toDigits 10 x.natAbs, decide (x < 0)⟩,
      ⟨hne, hwhole, hfraction, fun _ => isDigit_digits, fun h => absurd h Nat.toDigits_ne_nil⟩,
      ?_, hvalue, ?_⟩
    · rw [hchars, hpointed, if_neg hx, signedExponent_eq]
      simp [Numeral.chars, exponentChars, Nat.toDigits_ne_nil]
    · change applySign (decide (x < 0)) (natOfDigits (Nat.toDigits 10 x.natAbs)) -
        (fraction.length : Int) = e
      rw [natOfDigits_toDigits, applySign_natAbs]
      omega

end Decimal

namespace Literal

theorem Numeral.Sound.kept {n : Numeral} (h : n.Sound) : ∀ c ∈ n.chars, Kept c := by
  intro c hc
  rcases List.mem_append.mp hc with hw | hc
  · exact kept_of_isDigit (h.whole c hw)
  rcases List.mem_append.mp hc with hf | he
  · unfold pointChars at hf
    split at hf
    · cases hf
    · rcases List.mem_cons.mp hf with rfl | hf
      · decide
      · exact kept_of_isDigit (h.fraction c hf)
  · unfold exponentChars at he
    split at he
    · cases he
    · rcases List.mem_cons.mp he with rfl | he
      · decide
      rcases List.mem_cons.mp he with rfl | he
      · cases n.negativeExponent <;> decide
      · exact kept_of_isDigit (h.exponent c he)

/-- A literal that starts with a digit is none of the words. -/
theorem not_word {c : Char} (h : c.isDigit = true) (cs : List Char) :
    isInfinity ((c :: cs).map Char.toLower) = false ∧
      ((c :: cs).map Char.toLower).take 3 ≠ "nan".toList ∧
      ((c :: cs).map Char.toLower).take 4 ≠ "snan".toList := by
  have hall : ∀ n < 10, (Nat.digitChar n).toLower ≠ 'i' ∧ (Nat.digitChar n).toLower ≠ 'n' ∧
      (Nat.digitChar n).toLower ≠ 's' := by
    decide
  obtain ⟨n, hn, rfl⟩ := digitChar_of_isDigit h
  obtain ⟨hi, hnan, hsnan⟩ := hall n hn
  refine ⟨?_, ?_, ?_⟩
  · simp [isInfinity, hi]
  · simp [hnan]
  · simp [hsnan]

/-- A decimal of any sign, coefficient and exponent reads back. -/
theorem decimal?_text (negative : Bool) {c : Nat} {e : Int} (h : decimalFits c e = true) :
    (∀ d ∈ (Decimal.text (.finite negative c e)).toList, Kept d) ∧
      decimal? (Decimal.text (.finite negative c e)) = some (.finite negative c e) := by
  obtain ⟨n, hn, hchars, hcoefficient, hscale⟩ := Decimal.exists_numeral c e
  have htext : (Decimal.text (.finite negative c e)).toList =
      (if negative then ['-'] else []) ++ n.chars := by
    rw [Decimal.text, String.toList_ofList, ← hchars]
    rfl
  have hkept : ∀ d ∈ (Decimal.text (.finite negative c e)).toList, Kept d := by
    rw [htext]
    intro d hd
    rcases List.mem_append.mp hd with hs | hd
    · split at hs
      · rw [List.mem_singleton.mp hs]
        decide
      · cases hs
    · exact hn.kept d hd
  refine ⟨hkept, ?_⟩
  obtain ⟨d, ds, hd⟩ := List.exists_cons_of_ne_nil hn.nonempty
  have hdigit : d.isDigit = true := hn.whole d (by simp [hd])
  obtain ⟨rest, hrest⟩ : ∃ rest, n.chars = d :: rest := by
    rw [Numeral.chars, hd]
    exact ⟨_, rfl⟩
  have hfilter : (plain (Decimal.text (.finite negative c e))).filter (· ≠ '_') =
      (if negative then ['-'] else []) ++ n.chars := by
    rw [plain_eq hkept, List.filter_eq_self.mpr fun d hd => decide_eq_true (hkept d hd).2.2, htext]
  have hsign : splitSign ((if negative then ['-'] else []) ++ n.chars) = (negative, n.chars) := by
    cases negative with
    | true => rfl
    | false =>
      rw [hrest]
      exact splitSign_digit hdigit rest
  obtain ⟨hinf, hnan, hsnan⟩ := not_word hdigit rest
  rw [← hrest] at hinf hnan hsnan
  have hread := Numeral.ofChars?_chars hn
  unfold decimal?
  rw [hfilter, hsign]
  dsimp only
  rw [hinf, if_neg (by decide), if_neg hnan, if_neg hsnan, hread]
  simp [hcoefficient, hscale, h]

end Literal

end Metrology
