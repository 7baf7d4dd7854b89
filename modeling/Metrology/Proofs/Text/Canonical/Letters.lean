import Metrology.Proofs.Text.Canonical.Parts
import Metrology.Text.Character

namespace Metrology.Text.Canonical

/-- The set of the code points of some ranges, as the bits of one number. -/
def rangeMask (ranges : List (Nat × Nat)) : Nat :=
  ranges.foldr (fun r m => m ||| (2 ^ (r.2 + 1 - r.1) - 1) <<< r.1) 0

theorem testBit_rangeMask (ranges : List (Nat × Nat)) (n : Nat) :
    (rangeMask ranges).testBit n = inRanges ranges n := by
  induction ranges with
  | nil => exact Nat.zero_testBit n
  | cons r ranges ih =>
    have hr : ((2 ^ (r.2 + 1 - r.1) - 1) <<< r.1).testBit n =
        (decide (r.1 ≤ n) && decide (n ≤ r.2)) := by
      rw [Nat.testBit_shiftLeft, Nat.testBit_two_pow_sub_one]
      grind
    change (rangeMask ranges ||| _).testBit n = _
    rw [Nat.testBit_or, ih, hr, Bool.or_comm]
    rfl

def letterSet : Nat := rangeMask letterRanges

def markSet : Nat := rangeMask (markRuns.map fun run => (run.1, run.2.1))

theorem testBit_letterSet (c : Char) : letterSet.testBit c.toNat = isLetter c :=
  testBit_rangeMask _ _

/-- No mark is a letter, and no letter is the second of a pair in the table. -/
theorem letters_apart : letterSet &&& markSet = 0 ∧ letterSet &&& seconds = 0 := by
  decide +kernel

theorem not_both {m k n : Nat} (h : m &&& k = 0) (hm : m.testBit n = true) :
    k.testBit n = false := by
  have hb := Nat.testBit_and m k n
  rwa [h, Nat.zero_testBit, hm, Bool.true_and, eq_comm] at hb

theorem combiningClass_letter {c : Char} (h : isLetter c = true) : combiningClass c = 0 := by
  rw [← testBit_letterSet] at h
  have hm := not_both letters_apart.1 h
  rw [markSet, testBit_rangeMask, inRanges, List.any_map] at hm
  unfold combiningClass
  split
  · rfl
  · have hf : (markRuns.find? fun r => r.1 ≤ c.toNat && c.toNat ≤ r.2.1) = none := by
      refine List.find?_eq_none.mpr fun r hr => ?_
      exact List.any_eq_false.mp hm r hr
    rw [hf]

/-- Whether the first of some code points is a letter. -/
def startsWithLetter : List Nat → Bool
  | [] => false
  | n :: _ => letterSet.testBit n

theorem table_letters :
    ∀ entry ∈ table, letterSet.testBit entry.1 = true → startsWithLetter entry.2 = true := by
  decide +kernel

theorem jamo_letters : ∀ k < 0x100, letterSet.testBit (0x1100 + k) = true := by
  decide +kernel

theorem isLetter_jamo {k : Nat} (h : 0x1100 ≤ k ∧ k < 0x1200) : isLetter (Char.ofNat k) = true := by
  rw [← testBit_letterSet, toNat_jamo h]
  have hk := jamo_letters (k - 0x1100) (by omega)
  rwa [Nat.add_sub_cancel' h.1] at hk

/-- The first of the parts of a syllable is a leading consonant. -/
theorem jamo_cons (n : Nat) : ∃ more, jamo n = (0x1100 + (n - 0xAC00) / 588) :: more := by
  dsimp only [jamo]
  split
  · exact ⟨_, rfl⟩
  · exact ⟨_, rfl⟩

/-- What a letter stands for starts with a letter. -/
theorem parts?_letter {c : Char} {ps : List Char} (h : parts? c = some ps)
    (hc : isLetter c = true) : ∃ p more, ps = p :: more ∧ isLetter p = true := by
  rcases parts?_eq_some h with ⟨hs, hps⟩ | ⟨codes, ht, hps⟩
  · obtain ⟨more, hj⟩ := jamo_cons c.toNat
    have hr := jamo_range hs
    rw [hj] at hr hps
    rw [hps]
    exact ⟨_, _, rfl, isLetter_jamo (hr _ (by simp))⟩
  · rw [hps]
    have hl := table_letters _ ht ((testBit_letterSet c).trans hc)
    cases codes with
    | nil => cases hl
    | cons k ks =>
      have hk := List.all_eq_true.mp (plainCode_parts _ ht) k (by simp)
      refine ⟨_, _, rfl, ?_⟩
      rw [← testBit_letterSet, (plainCode_valid hk).1]
      exact hl

theorem expand_letter {c : Char} (steps : Nat) (hc : isLetter c = true) :
    ∃ d more, expand steps c = d :: more ∧ isLetter d = true := by
  induction steps generalizing c with
  | zero => exact ⟨c, [], rfl, hc⟩
  | succ steps ih =>
    rw [expand]
    split
    · exact ⟨c, [], rfl, hc⟩
    · rename_i ps hp
      obtain ⟨p, more, rfl, hl⟩ := parts?_letter hp hc
      obtain ⟨d, front, he, hd⟩ := ih hl
      refine ⟨d, front ++ more.flatMap (expand steps), ?_, hd⟩
      rw [List.flatMap_cons, he]
      rfl

/-- Whether a code point is of a vowel or a trailing consonant of Hangul. -/
def IsFinal (n : Nat) : Prop :=
  0x1161 ≤ n ∧ n < 0x1200

theorem table_finals : ∀ entry ∈ table, ∀ n ∈ entry.2, n < 0x1161 ∨ 0x1200 ≤ n := by
  decide +kernel

theorem underived_final {d : Char} (h : IsFinal d.toNat) : Underived d := by
  obtain ⟨hl, hu⟩ := h
  refine ⟨?_, fun entry he hd => ?_⟩
  · have hp := parts?_jamo ⟨by omega, hu⟩
    rwa [Char.ofNat_toNat] at hp
  · have := table_finals entry he _ hd
    omega

/-- A letter that decomposes to such a jamo and more is the jamo. -/
theorem eq_of_expand_final {b d : Char} {more : List Char} (h : expand 3 b = d :: more)
    (hd : IsFinal d.toNat) : d = b := by
  have hm : d ∈ expand 3 b := by simp [h]
  rcases (underived_final hd).eq_or_syllable hm with he | hs
  · exact he
  · have he := expand_syllable hs
    obtain ⟨rest, hj⟩ := jamo_cons b.toNat
    rw [Char.ofNat_toNat, h, hj, List.map_cons] at he
    obtain ⟨hl, hu⟩ := hs
    rw [(List.cons.inj he).1, toNat_jamo (by omega)] at hd
    obtain ⟨hd, -⟩ := hd
    omega

/-- No other letter composes with what stands in front of it. -/
theorem isFinal_of_compose? {a b c : Char} (hb : isLetter b = true) (h : compose? a b = some c) :
    IsFinal b.toNat := by
  by_contra hf
  unfold IsFinal at hf
  have hn : compose? a b = none := by
    refine compose?_none ?_ ?_
    · unfold syllable?
      rw [if_neg (by omega), if_neg (by omega)]
    · cases hc : composite? a.toNat b.toNat with
      | none => rfl
      | some n =>
        have hs := not_both letters_apart.2 ((testBit_letterSet b).trans hb)
        rw [(testBit_composite? hc).2] at hs
        cases hs
  rw [hn] at h
  cases h

/-- What does not compose with a letter, does not with the first one it decomposes to. -/
theorem compose?_letter {a b d : Char} {more : List Char} (hd : expand 3 b = d :: more)
    (hl : isLetter d = true) (h : compose? a b = none) : compose? a d = none := by
  cases hc : compose? a d with
  | none => rfl
  | some c =>
    rw [eq_of_expand_final hd (isFinal_of_compose? hl hc), h] at hc
    cases hc

/-- What two characters compose to stands for others, as such a jamo does not. -/
theorem not_isFinal_of_compose? {a b c : Char} (h : compose? a b = some c) :
    ¬IsFinal c.toNat := by
  intro hf
  have hn := (underived_final hf).alone
  unfold compose? at h
  split at h
  · cases h
  obtain ⟨n, hn', rfl⟩ := Option.map_eq_some_iff.mp h
  cases hs : syllable? a.toNat b.toNat with
  | none =>
    rw [hs] at hn'
    rw [parts?_composite hn'] at hn
    cases hn
  | some m =>
    rw [hs] at hn'
    obtain rfl : m = n := Option.some.inj hn'
    rw [parts?_syllable (syllable?_eq_some hs).1] at hn
    cases hn

theorem settle_ne_nil (b : Char) (marks cs : List Char) : settle b marks cs ≠ [] := by
  induction cs generalizing b marks with
  | nil => simp [settle]
  | cons c cs ih =>
    rw [settle]
    split
    · exact ih _ _
    split
    · simp
    · exact ih _ _

/-- A base that what comes last does not compose with starts anew. -/
theorem settle_append {d : Char} (hd : combiningClass d = 0) (ds : List Char) {b : Char}
    {marks cs : List Char} (ha : ∀ a ∈ (settle b marks cs).getLast?, compose? a d = none) :
    settle b marks (cs ++ d :: ds) = settle b marks cs ++ settle d [] ds := by
  induction cs generalizing b marks with
  | nil =>
    have hn : (if blocked marks d then none else compose? b d) = none := by
      cases marks with
      | nil => exact ha b rfl
      | cons m marks => simp [blocked, List.getLast?_cons, hd]
    have hb : settle b marks [] = b :: marks := by rw [settle]
    rw [List.nil_append, hb, settle, hn, if_pos hd]
  | cons e cs ih =>
    rw [settle] at ha
    rw [List.cons_append, settle, settle]
    split
    · rename_i joined hj
      rw [hj] at ha
      exact ih ha
    · rename_i hj
      rw [hj] at ha
      split
      · rename_i he
        rw [if_pos he, List.getLast?_append_of_ne_nil _ (settle_ne_nil _ _ _)] at ha
        rw [ih ha, List.append_assoc]
      · rename_i he
        rw [if_neg he] at ha
        exact ih ha

theorem compose_append {d : Char} (hd : combiningClass d = 0) (ds : List Char) {cs : List Char}
    (ha : ∀ a ∈ (compose cs).getLast?, compose? a d = none) :
    compose (cs ++ d :: ds) = compose cs ++ compose (d :: ds) := by
  have hds : compose (d :: ds) = settle d [] ds := by rw [compose, if_pos hd]
  induction cs with
  | nil => rfl
  | cons c cs ih =>
    rw [compose] at ha
    rw [List.cons_append, compose, compose]
    split
    · rename_i hc
      rw [if_pos hc] at ha
      rw [settle_append hd ds ha, hds]
    · rename_i hc
      rw [if_neg hc] at ha
      rw [ih fun a hm => ha a (List.mem_getLast?_cons hm), List.cons_append]

/-- Two canonical texts behind one another. The second starts with a letter. -/
theorem normal_append {cs ds : List Char} {b : Char} (hb : isLetter b = true)
    (hcs : normal cs = cs) (hds : normal (b :: ds) = b :: ds)
    (ha : ∀ a ∈ cs.getLast?, compose? a b = none) :
    normal (cs ++ b :: ds) = cs ++ b :: ds := by
  obtain ⟨d, more, he, hl⟩ := expand_letter 3 hb
  have hd := combiningClass_letter hl
  have hdec : decompose (b :: ds) = d :: (more ++ decompose ds) := by
    rw [decompose, List.flatMap_cons, he]
    rfl
  have hback : normal (b :: ds) = compose (d :: order (more ++ decompose ds)) := by
    rw [normal, hdec]
    exact congrArg compose (order_base hd [] _)
  have hlast : ∀ a ∈ (normal cs).getLast?, compose? a d = none := by
    rw [hcs]
    exact fun a hm => compose?_letter he hl (ha a hm)
  calc normal (cs ++ b :: ds)
      = compose (order (decompose cs) ++ d :: order (more ++ decompose ds)) := by
        rw [normal, decompose_append, hdec, order_base hd]
    _ = normal cs ++ normal (b :: ds) := by
        rw [hback]
        exact compose_append hd _ hlast
    _ = cs ++ b :: ds := by rw [hcs, hds]

/-- Whether a character does not take in the one behind it, if they are a letter and such a jamo. -/
def Leaves (a b : Char) : Prop :=
  isLetter a = true → IsFinal b.toNat → compose? a b = none

theorem leaves_mark {a b : Char} (h : 0 < combiningClass a ∨ 0 < combiningClass b) :
    Leaves a b := by
  intro ha hf
  have hb : isLetter b = true := by
    have hj := isLetter_jamo (k := b.toNat) (by unfold IsFinal at hf; omega)
    rwa [Char.ofNat_toNat] at hj
  rw [combiningClass_letter ha, combiningClass_letter hb] at h
  omega

theorem leaves_marks {marks : List Char} (h : ∀ m ∈ marks, 0 < combiningClass m) (b : Char) :
    (b :: marks).IsChain Leaves := by
  induction marks generalizing b with
  | nil => exact .singleton b
  | cons m marks ih =>
    have hm := leaves_mark (a := b) (.inr (h m (by simp)))
    exact List.isChain_cons_cons.mpr ⟨hm, ih (fun n hn => h n (by simp [hn])) m⟩

theorem compose?_of_not_blocked {marks : List Char} {b c : Char} {joined : Char}
    (h : (if blocked marks c then none else compose? b c) = some joined) :
    compose? b c = some joined := by
  split at h
  · cases h
  · exact h

/-- If `settle` makes such a jamo first, then it has started from it. -/
theorem head_settle {b d : Char} {marks cs : List Char} (hd : d ∈ (settle b marks cs).head?)
    (hf : IsFinal d.toNat) : d = b := by
  induction cs generalizing b marks with
  | nil => exact (Option.some.inj hd).symm
  | cons c cs ih =>
    rw [settle] at hd
    split at hd
    · rename_i joined hj
      have hjoined : d = joined := ih hd
      rw [hjoined] at hf
      exact absurd hf (not_isFinal_of_compose? (compose?_of_not_blocked hj))
    split at hd
    · exact (Option.some.inj hd).symm
    · exact ih hd

theorem leaves_settle {b : Char} {marks cs : List Char} (hm : ∀ m ∈ marks, 0 < combiningClass m) :
    (settle b marks cs).IsChain Leaves := by
  induction cs generalizing b marks with
  | nil => exact leaves_marks hm b
  | cons c cs ih =>
    rw [settle]
    split
    · exact ih hm
    rename_i hj
    split
    · refine List.isChain_append.mpr ⟨leaves_marks hm b, ih (by simp), fun a ha d hd => ?_⟩
      cases marks with
      | nil =>
        obtain rfl := Option.some.inj ha
        intro _ hf
        rw [head_settle hd hf]
        exact hj
      | cons m marks =>
        rw [List.getLast?_cons_cons] at ha
        exact leaves_mark (.inl (hm a (List.mem_of_getLast? ha)))
    · refine ih fun m hmem => ?_
      rcases List.mem_append.mp hmem with h | h
      · exact hm m h
      · rw [List.mem_singleton.mp h]
        omega

theorem leaves_compose (cs : List Char) : (compose cs).IsChain Leaves := by
  induction cs with
  | nil => exact .nil
  | cons c cs ih =>
    rw [compose]
    split
    · exact leaves_settle (by simp)
    · exact List.isChain_cons.mpr ⟨fun d _ => leaves_mark (.inl (by omega)), ih⟩

/-- No letter of a canonical text composes with the letter behind it. -/
theorem compose?_of_normal {cs : List Char} (hn : normal cs = cs) {a b : Char}
    (ha : isLetter a = true) (hb : isLetter b = true) (h : [a, b] <:+: cs) :
    compose? a b = none := by
  have hc : cs.IsChain Leaves := by
    rw [← hn]
    exact leaves_compose _
  have hp : [a, b].IsChain Leaves := List.IsChain.infix hc h
  have hl : Leaves a b := List.isChain_pair.mp hp
  cases hj : compose? a b with
  | none => rfl
  | some j =>
    rw [hl ha (isFinal_of_compose? hb hj)] at hj
    cases hj

end Metrology.Text.Canonical
