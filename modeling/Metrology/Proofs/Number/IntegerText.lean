import Mathlib.Data.List.DropRight
import Metrology.Number.Text
import Metrology.Proofs.Number.Binary64
import Metrology.Proofs.Number.RatioText

namespace Metrology

theorem toDigits_mul_pow10 {n : Nat} (h : n ≠ 0) (k : Nat) :
    Nat.toDigits 10 (n * pow10 k) = Nat.toDigits 10 n ++ List.replicate k '0' := by
  induction k with
  | zero => simp [pow10_zero]
  | succ k ih =>
    have hpos : 0 < n * pow10 k := Nat.mul_pos (Nat.pos_of_ne_zero h) (pow10_pos k)
    have happend := Nat.toDigits_append_toDigits (b := 10) (d := 0) (by decide) hpos (by decide)
    rw [Nat.add_zero, ih, Nat.mul_comm 10, Nat.mul_assoc, ← pow10_succ] at happend
    rw [← happend, List.replicate_succ', List.append_assoc]
    rfl

/-- A whole number that has no more digits than are asked for is kept. -/
theorem significant_whole {n d count : Nat} (h0 : n ≠ 0) (hd : 0 < d) (h : digitCount n ≤ count) :
    significant count (n * d) d =
      ⟨n * pow10 (count - digitCount n), -((count - digitCount n : Nat) : Int)⟩ := by
  have hle : d ≤ n * d := Nat.le_mul_of_pos_left d (Nat.pos_of_ne_zero h0)
  have hplace : pointPlace (n * d) d = digitCount n := by
    rw [pointPlace, if_pos hle, Nat.mul_div_cancel n hd]
  have hshift : (count : Int) - digitCount n = (count - digitCount n : Nat) := by omega
  have hround := roundHalfEven_exact (n * pow10 (count - digitCount n)) hd
  unfold significant
  rw [hplace, hshift]
  dsimp only
  rw [Int.toNat_natCast, show (-((count - digitCount n : Nat) : Int)).toNat = 0 by omega,
    pow10_zero, Nat.mul_one, Nat.mul_right_comm, hround]

/-- A number of more digits than are asked for. -/
theorem significant_wide {n d count : Nat} (hd : 0 < d) (hc : 0 < count) (h : pow10 count * d ≤ n) :
    (count : Int) < (significant count n d).exponent + digitCount (significant count n d).digits := by
  have hq : pow10 count ≤ n / d := (Nat.le_div_iff_mul_le hd).mpr h
  have hwide : count < digitCount (n / d) := (lt_digitCount_iff hc).mpr hq
  have hle : d ≤ n := (Nat.le_mul_of_pos_left d (pow10_pos count)).trans h
  have hplace : pointPlace n d = digitCount (n / d) := if_pos hle
  have hshift : (-((count : Int) - digitCount (n / d))).toNat = digitCount (n / d) - count := by
    omega
  -- The quotient has as many digits as its whole part, and so keeps `count` of them.
  have hround : pow10 (count - 1) ≤
      roundHalfEven (n * pow10 0) (d * pow10 (digitCount (n / d) - count)) := by
    refine le_roundHalfEven (Nat.mul_pos hd (pow10_pos _)) ?_
    have hlow : pow10 (digitCount (n / d) - 1) ≤ n / d := pow10_le_of_digitCount (by
      have := pow10_pos count
      omega)
    have hmul := (Nat.le_div_iff_mul_le hd).mp hlow
    rw [show digitCount (n / d) - 1 = count - 1 + (digitCount (n / d) - count) by omega,
      pow10_add] at hmul
    rw [pow10_zero, Nat.mul_one]
    calc pow10 (count - 1) * (d * pow10 (digitCount (n / d) - count))
        = pow10 (count - 1) * pow10 (digitCount (n / d) - count) * d := by ring
      _ ≤ n := hmul
  unfold significant
  rw [hplace]
  dsimp only
  rw [hshift, show ((count : Int) - digitCount (n / d)).toNat = 0 by omega]
  generalize roundHalfEven (n * pow10 0) (d * pow10 (digitCount (n / d) - count)) = digits at *
  have hdigits : count ≤ digitCount digits := by
    have hlt := lt_pow10_digitCount digits
    have := pow10_lt_iff.mp (Nat.lt_of_le_of_lt hround hlt)
    omega
  omega

namespace FloatLayout

variable {layout : FloatLayout}

/-- Zeros at the end are taken off, and put back as far as the point. -/
theorem refilled (ds : List Char) :
    ds.rdropWhile (· == '0') ++
      List.replicate (ds.length - (ds.rdropWhile (· == '0')).length) '0' = ds := by
  have hsplit := List.rdropWhile_append_rtakeWhile (p := (· == '0')) (l := ds)
  have hlength := congrArg List.length hsplit
  rw [List.length_append] at hlength
  have hzeros : ds.rtakeWhile (· == '0') =
      List.replicate (ds.length - (ds.rdropWhile (· == '0')).length) '0' := by
    refine List.eq_replicate_iff.mpr ⟨by omega, fun c hc => ?_⟩
    simpa using List.mem_rtakeWhile_imp hc
  rw [← hzeros, hsplit]

theorem rdropWhile_zeros (ds : List Char) (k : Nat) :
    (ds ++ List.replicate k '0').rdropWhile (· == '0') = ds.rdropWhile (· == '0') := by
  induction k with
  | zero => simp
  | succ k ih =>
    rw [List.replicate_succ', ← List.append_assoc, List.rdropWhile_concat_pos _ _ _ (by decide), ih]

theorem lay_whole {n : Nat} (h0 : n ≠ 0) (k : Nat) (hk : layout.keepsPoint = false)
    (h : digitCount n ≤ layout.widest) :
    layout.lay ⟨n * pow10 k, -(k : Int)⟩ = Nat.toDigits 10 n := by
  have hcount : digitCount n = (Nat.toDigits 10 n).length := rfl
  have hpos := digitCount_pos n
  have hplace : -(k : Int) + ((Nat.toDigits 10 n ++ List.replicate k '0').length : Nat) =
      digitCount n := by
    rw [List.length_append, List.length_replicate, ← hcount]
    omega
  have hle : ((Nat.toDigits 10 n).rdropWhile (· == '0')).length ≤ digitCount n :=
    (List.rdropWhile_prefix _ _).length_le
  unfold lay
  dsimp only
  rw [toDigits_mul_pow10 h0, hplace, if_pos (by omega), if_neg (by simp [hk]), List.append_nil]
  change pointed ((Nat.toDigits 10 n ++ List.replicate k '0').rdropWhile (· == '0')) _ = _
  rw [rdropWhile_zeros, pointed, if_neg (by omega), if_pos (by omega), Int.toNat_natCast]
  exact refilled _

theorem exponent_mem_lay {s : Significant}
    (h : (layout.widest : Int) < s.exponent + digitCount s.digits) : 'e' ∈ layout.lay s := by
  have hwide : ¬(-4 < s.exponent + ((Nat.toDigits 10 s.digits).length : Int) ∧
      s.exponent + ((Nat.toDigits 10 s.digits).length : Int) ≤ layout.widest) := by
    change (layout.widest : Int) < s.exponent + ((Nat.toDigits 10 s.digits).length : Int) at h
    omega
  unfold lay
  dsimp only
  rw [if_neg hwide]
  simp

end FloatLayout

namespace Binary64

theorem displayText_whole {n k : Nat} {e : Int} (h0 : n ≠ 0) (h : digitCount n ≤ 15)
    (he : e = -(k : Int)) (negative : Bool) :
    displayText (.finite negative (n * pow2 k) e) =
      String.ofList ((if negative then ['-'] else []) ++ Nat.toDigits 10 n) := by
  have hm : n * pow2 k ≠ 0 := Nat.mul_ne_zero h0 (pow2_pos k).ne'
  have hdigits : fifteenDigits (n * pow2 k) e =
      ⟨n * pow10 (15 - digitCount n), -((15 - digitCount n : Nat) : Int)⟩ := by
    rw [fifteenDigits, he, show (-(k : Int)).toNat = 0 by omega,
      show (-(-(k : Int))).toNat = k by omega, pow2_zero, Nat.mul_one]
    exact significant_whole h0 (pow2_pos k) h
  rw [displayText, FloatLayout.chars, if_neg hm, hdigits, FloatLayout.lay_whole h0 _ rfl h]

theorem exponent_mem_displayText {m : Nat} {e : Int} (h : pow10 15 * pow2 (-e).toNat ≤ m * pow2 e.toNat)
    (negative : Bool) : 'e' ∈ (displayText (.finite negative m e)).toList := by
  have hm : m ≠ 0 := by
    rintro rfl
    have hpos := Nat.mul_pos (pow10_pos 15) (pow2_pos (-e).toNat)
    omega
  rw [displayText, String.toList_ofList, FloatLayout.chars, if_neg hm]
  exact List.mem_append_right _
    (FloatLayout.exponent_mem_lay (significant_wide (pow2_pos _) (by decide) h))

/-- A natural number of more than fifteen digits has a double that is no smaller than the least of
them. -/
theorem magnitude_nearestBits_wide {n : Nat} (h : pow10 15 ≤ n) :
    pow10 15 * pow2 (-(magnitude (nearestBits n 1)).2).toNat ≤
      (magnitude (nearestBits n 1)).1 * pow2 (magnitude (nearestBits n 1)).2.toNat := by
  have h0 : n ≠ 0 := by
    have := pow10_pos 15
    omega
  by_cases hlog : n.log2 ≤ 52
  · rw [(magnitude_nearestBits_small h0 hlog).2]
    dsimp only
    rw [show (-((n.log2 : Int) - 52)).toNat = 52 - n.log2 by omega,
      show ((n.log2 : Int) - 52).toNat = 0 by omega, pow2_zero, Nat.mul_one]
    exact Nat.mul_le_mul_right _ h
  · obtain ⟨hm, he⟩ := magnitude_nearestBits_large (n := n) (by omega)
    generalize magnitude (nearestBits n 1) = read at *
    have htwo : pow2 1 ≤ pow2 read.2.toNat := Nat.pow_le_pow_right (by decide) (by omega)
    rw [show (-read.2).toNat = 0 by omega]
    calc pow10 15 * pow2 0 ≤ hiddenBit * pow2 1 := by decide
      _ ≤ read.1 * pow2 read.2.toNat := Nat.mul_le_mul hm htwo

end Binary64

namespace Number

theorem displayed_short {n : Int} (h : n.natAbs < pow10 15) :
    (int n).displayed = .ok (toString n) := by
  by_cases h0 : n.natAbs = 0
  · obtain rfl := Int.natAbs_eq_zero.mp h0
    rfl
  · have hlog : n.natAbs.log2 ≤ 52 :=
      Nat.le_of_lt_succ ((Nat.log2_lt h0).mpr (Nat.lt_trans h (by decide)))
    obtain ⟨hfinite, hmagnitude⟩ := Binary64.magnitude_nearestBits_small h0 hlog
    have hcount : digitCount n.natAbs ≤ 15 := (digitCount_le_iff (by decide)).mpr h
    have htext := Binary64.displayText_whole h0 hcount
      (show (n.natAbs.log2 : Int) - 52 = -((52 - n.natAbs.log2 : Nat) : Int) by omega)
      (decide (n < 0))
    unfold displayed
    dsimp only
    rw [if_neg hfinite, hmagnitude]
    dsimp only
    rw [htext, ← String.ofList_toList (s := toString n), Literal.toList_toString,
      Literal.integerChars]
    simp

theorem exponent_mem_displayed {n : Int} (h : pow10 15 ≤ n.natAbs) {text : String}
    (ht : (int n).displayed = .ok text) : 'e' ∈ text.toList := by
  unfold displayed at ht
  dsimp only at ht
  split at ht
  · cases ht
  · obtain rfl := Except.ok.inj ht
    exact Binary64.exponent_mem_displayText (Binary64.magnitude_nearestBits_wide h) _

end Number

namespace Literal

theorem plainSpaced_eq {text : String} (h : ∀ c ∈ text.toList, Kept c) :
    plainSpaced text = text.toList := by
  have hspace : ∀ c ∈ text.toList, Text.isSpace c = false := by
    intro c hc
    rw [Text.isSpace, (h c hc).1]
    rfl
  rw [plainSpaced, trim_eq hspace]
  exact (List.map_congr_left fun c hc => (h c hc).2.1).trans (List.map_id _)

/-- Without blanks, foreign digits and underscores a literal is read as it stands. -/
theorem int?_of_kept {text : String} (h : ∀ c ∈ text.toList, Kept c) :
    int? text = integer? text.toList := by
  have hgroup : '_' ∉ text.toList := fun hm => (h _ hm).2.2 rfl
  rw [int?, plainSpaced_eq h, ungroup_eq hgroup]
  rfl

theorem int?_toString {n : Int} (h : WritableInt n) : int? (toString n) = some n := by
  have hs := splitSign_integerChars n []
  rw [List.append_nil, List.append_nil] at hs
  rw [int?_of_kept fun c hc => (figure_toString n c hc).kept, toList_toString, integer?, hs]
  dsimp only
  rw [if_pos (length_digits h), natural?_digits, Option.map_some, applySign_natAbs]

variable {c : Char} {cs : List Char}

theorem mem_trim {blank : Char → Bool} (hm : c ∈ cs) (hb : blank c = false) :
    c ∈ trim blank cs := by
  have hdrop (ds : List Char) (hd : c ∈ ds) : c ∈ ds.dropWhile blank := by
    rw [← List.takeWhile_append_dropWhile (p := blank) (l := ds)] at hd
    rcases List.mem_append.mp hd with ht | ht
    · rw [List.mem_takeWhile_imp ht] at hb
      cases hb
    · exact ht
  rw [trim, List.mem_reverse]
  exact hdrop _ (List.mem_reverse.mpr (hdrop _ hm))

theorem mem_ungroup {afterDigit : Bool} {ds : List Char} (h : ungroup afterDigit cs = some ds)
    (hm : c ∈ cs) (hc : c ≠ '_') : c ∈ ds := by
  induction cs generalizing afterDigit ds with
  | nil => cases hm
  | cons d cs ih =>
    by_cases hd : d = '_'
    · subst hd
      rw [ungroup] at h
      split at h
      · exact ih h ((List.mem_cons.mp hm).resolve_left hc)
      · cases h
    · rw [ungroup.eq_3 _ _ _ hd] at h
      obtain ⟨es, he, rfl⟩ := Option.map_eq_some_iff.mp h
      rcases List.mem_cons.mp hm with rfl | hm
      · exact List.mem_cons_self
      · exact List.mem_cons_of_mem _ (ih he hm)

theorem mem_splitSign (hm : c ∈ cs) (hminus : c ≠ '-') (hplus : c ≠ '+') :
    c ∈ (splitSign cs).2 := by
  unfold splitSign
  split
  · exact (List.mem_cons.mp hm).resolve_left hminus
  · exact (List.mem_cons.mp hm).resolve_left hplus
  · exact hm

/-- The letter of an exponent stands in no literal of an integer. -/
theorem int?_exponent {text : String} (h : 'e' ∈ text.toList) : int? text = none := by
  have hplain : 'e' ∈ plainSpaced text :=
    List.mem_map.mpr ⟨'e', mem_trim h (by decide), by decide⟩
  cases hg : ungroup false (plainSpaced text) with
  | none =>
    rw [int?, hg]
    rfl
  | some ds =>
    have hmem := mem_splitSign (mem_ungroup hg hplain (by decide)) (by decide) (by decide)
    have hnatural : natural? (splitSign ds).2 = none := by
      refine if_neg fun hall => ?_
      exact absurd (List.all_eq_true.mp hall.2 _ hmem) (by decide)
    rw [int?, hg]
    change integer? ds = none
    unfold integer?
    dsimp only
    split
    · rw [hnatural]
      rfl
    · rfl

end Literal

end Metrology
