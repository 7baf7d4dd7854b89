import Mathlib.Data.List.Nodup
import Mathlib.Data.Nat.Bitwise
import Metrology.Text.Canonical

namespace Metrology.Text.Canonical

/-- The set of some code points, as the bits of one number. -/
def mask (ns : List Nat) : Nat :=
  ns.foldr (fun n m => m ||| 1 <<< n) 0

theorem testBit_or_shift (m n k : Nat) :
    (m ||| 1 <<< n).testBit k = true ↔ k = n ∨ m.testBit k = true := by
  rw [Nat.testBit_or, Nat.one_shiftLeft, Bool.or_eq_true, Nat.testBit_two_pow, decide_eq_true_eq,
    or_comm, eq_comm]

theorem testBit_mask {ns : List Nat} {n : Nat} : (mask ns).testBit n = true ↔ n ∈ ns := by
  induction ns with
  | nil => simp [mask]
  | cons k ns ih =>
    change (mask ns ||| 1 <<< k).testBit n = true ↔ _
    rw [testBit_or_shift, ih, List.mem_cons]

/-- Whether code points are all different, and none of them is in a set. -/
def allNew : Nat → List Nat → Bool
  | _, [] => true
  | m, n :: ns => !m.testBit n && allNew (m ||| 1 <<< n) ns

theorem nodup_of_allNew {m : Nat} {ns : List Nat} (h : allNew m ns = true) :
    ns.Nodup ∧ ∀ n ∈ ns, m.testBit n = false := by
  induction ns generalizing m with
  | nil => simp
  | cons n ns ih =>
    rw [allNew, Bool.and_eq_true, Bool.not_eq_true'] at h
    obtain ⟨hn, hs⟩ := ih h.2
    have hk (k : Nat) (hk : k ∈ ns) : k ≠ n ∧ m.testBit k = false := by
      have := hs k hk
      rw [← Bool.not_eq_true, testBit_or_shift, not_or] at this
      simpa using this
    refine ⟨List.nodup_cons.mpr ⟨fun hm => (hk n hm).1 rfl, hn⟩, ?_⟩
    intro k hm
    rcases List.mem_cons.mp hm with rfl | hm
    · exact h.1
    · exact (hk k hm).2

/-- What each code point of the three tables stands for. -/
def table : List (Nat × List Nat) :=
  composites.flatMap (fun group => group.2.map fun entry => (entry.2, [entry.1, group.1]))
    ++ singletonRuns.flatMap (fun run => run.2.zipIdx.map fun entry => (run.1 + entry.2, [entry.1]))
    ++ excludedPairs.map fun entry => (entry.1, [entry.2.1, entry.2.2])

def IsSyllable (n : Nat) : Prop :=
  0xAC00 ≤ n ∧ n ≤ 0xD7A3

instance (n : Nat) : Decidable (IsSyllable n) :=
  inferInstanceAs (Decidable (_ ∧ _))

/-- The code points of the table of which some part is in a set. -/
def above (m : Nat) : List Nat :=
  (table.filter fun entry => entry.2.any (m.testBit ·)).map (·.1)

/-- The set of the code points that more than so many steps lead away from. -/
def nested : Nat → Nat
  | 0 => mask (table.map (·.1))
  | steps + 1 => mask (above (nested steps))

theorem above_nested : above (nested 2) = [] := by
  decide +kernel

/-- Whether a code point is of a character, but not of a Hangul syllable. -/
def plainCode (n : Nat) : Bool :=
  n < 0xAC00 || (0xE000 ≤ n && n < 0x110000)

theorem plainCode_parts : ∀ entry ∈ table, entry.2.all plainCode = true := by
  decide +kernel

/-- Jamo stand for nothing else. -/
theorem table_jamo : ∀ entry ∈ table, entry.1 < 0x1100 ∨ 0x1200 ≤ entry.1 := by
  decide +kernel

theorem plainCode_valid {n : Nat} (h : plainCode n = true) :
    (Char.ofNat n).toNat = n ∧ ¬IsSyllable n := by
  simp only [plainCode, Bool.or_eq_true, Bool.and_eq_true, decide_eq_true_eq] at h
  refine ⟨?_, ?_⟩
  · have hv : n.isValidChar := by
      unfold Nat.isValidChar
      omega
    rw [Char.ofNat, dif_pos hv]
    rfl
  · unfold IsSyllable
    omega

theorem compositeParts?_mem {n : Nat} {ps : List Nat} (h : compositeParts? n = some ps) :
    (n, ps) ∈ table := by
  obtain ⟨group, hg, h⟩ := List.exists_of_findSome?_eq_some h
  obtain ⟨entry, he, rfl⟩ := Option.map_eq_some_iff.mp h
  have hn : entry.2 = n := by simpa using List.find?_some he
  subst hn
  refine List.mem_append_left _ (List.mem_append_left _ (List.mem_flatMap.mpr ⟨group, hg, ?_⟩))
  exact List.mem_map.mpr ⟨entry, List.mem_of_find?_eq_some he, rfl⟩

theorem singletonPart?_mem {n : Nat} {ps : List Nat} (h : singletonPart? n = some ps) :
    (n, ps) ∈ table := by
  obtain ⟨run, hr, h⟩ := List.exists_of_findSome?_eq_some h
  split at h
  · rename_i hle
    obtain ⟨part, hp, rfl⟩ := Option.map_eq_some_iff.mp h
    refine List.mem_append_left _ (List.mem_append_right _ (List.mem_flatMap.mpr ⟨run, hr, ?_⟩))
    refine List.mem_map.mpr ⟨(part, n - run.1), List.mem_zipIdx_iff_getElem?.mpr hp, ?_⟩
    rw [Nat.add_sub_cancel' hle]
  · contradiction

theorem excludedParts?_mem {n : Nat} {ps : List Nat} (h : excludedParts? n = some ps) :
    (n, ps) ∈ table := by
  obtain ⟨entry, he, rfl⟩ := Option.map_eq_some_iff.mp h
  have hn : entry.1 = n := by simpa using List.find?_some he
  subst hn
  exact List.mem_append_right _ (List.mem_map.mpr ⟨entry, List.mem_of_find?_eq_some he, rfl⟩)

/-- A character that stands for others is a syllable or in the table. -/
theorem parts?_eq_some {c : Char} {ps : List Char} (h : parts? c = some ps) :
    (IsSyllable c.toNat ∧ ps = (jamo c.toNat).map Char.ofNat) ∨
      ∃ codes, (c.toNat, codes) ∈ table ∧ ps = codes.map Char.ofNat := by
  dsimp only [parts?] at h
  split at h
  · contradiction
  split at h
  · rename_i hs
    exact .inl ⟨hs, (Option.some.inj h).symm⟩
  · obtain ⟨codes, hc, rfl⟩ := Option.map_eq_some_iff.mp h
    refine .inr ⟨codes, ?_, rfl⟩
    cases hp : compositeParts? c.toNat with
    | some parts =>
      simp only [hp, Option.orElse_eq_orElse, Option.orElse_eq_or, Option.some_or,
        Option.some.injEq] at hc
      exact hc ▸ compositeParts?_mem hp
    | none =>
      cases hq : singletonPart? c.toNat with
      | some parts =>
        simp only [hp, hq, Option.orElse_eq_orElse, Option.orElse_eq_or, Option.some_or,
          Option.none_or, Option.some.injEq] at hc
        exact hc ▸ singletonPart?_mem hq
      | none =>
        simp only [hp, hq, Option.orElse_eq_orElse, Option.orElse_eq_or, Option.none_or] at hc
        exact excludedParts?_mem hc

theorem parts?_eq_none {n : Nat} (hn : plainCode n = true) (h : ∀ codes, (n, codes) ∉ table) :
    parts? (Char.ofNat n) = none := by
  obtain ⟨hc, hs⟩ := plainCode_valid hn
  cases hp : parts? (Char.ofNat n) with
  | none => rfl
  | some ps =>
    rcases parts?_eq_some hp with ⟨hs', -⟩ | ⟨codes, ht, -⟩
    · exact absurd (hc ▸ hs') hs
    · exact absurd (hc ▸ ht) (h codes)

/-- Whether nothing is left to decompose after so many steps. -/
def Settled (steps : Nat) (c : Char) : Prop :=
  ∀ d ∈ expand steps c, parts? d = none

theorem settled_of_parts {steps : Nat} {c : Char} {ps : List Char} (hp : parts? c = some ps)
    (h : ∀ p ∈ ps, Settled steps p) : Settled (steps + 1) c := by
  intro d hd
  simp only [expand, hp] at hd
  obtain ⟨p, hm, hd⟩ := List.mem_flatMap.mp hd
  exact h p hm d hd

theorem settled_of_none {c : Char} (h : parts? c = none) (steps : Nat) : Settled steps c := by
  intro d hd
  have he : expand steps c = [c] := by
    cases steps with
    | zero => rfl
    | succ steps => simp only [expand, h]
  rw [he, List.mem_singleton] at hd
  exact hd ▸ h

/-- Once settled, a character stays as it is. -/
theorem expand_succ {steps : Nat} {c : Char} (h : Settled steps c) :
    expand (steps + 1) c = expand steps c := by
  induction steps generalizing c with
  | zero =>
    have hp : parts? c = none := h c (by simp [expand])
    simp only [expand, hp]
  | succ steps ih =>
    cases hp : parts? c with
    | none => simp only [expand, hp]
    | some ps =>
      rw [expand, hp, expand, hp]
      refine List.flatMap_congr fun p hm => ih fun d hd => h d ?_
      simp only [expand, hp]
      exact List.mem_flatMap.mpr ⟨p, hm, hd⟩

theorem settled_of_nested {steps : Nat} {n : Nat} (hn : plainCode n = true)
    (h : (nested steps).testBit n = false) : Settled steps (Char.ofNat n) := by
  induction steps generalizing n with
  | zero =>
    refine settled_of_none (parts?_eq_none hn fun codes ht => ?_) 0
    rw [nested, testBit_mask.mpr (List.mem_map.mpr ⟨_, ht, rfl⟩)] at h
    contradiction
  | succ steps ih =>
    obtain ⟨hc, hs⟩ := plainCode_valid hn
    cases hp : parts? (Char.ofNat n) with
    | none => exact settled_of_none hp _
    | some ps =>
      rcases parts?_eq_some hp with ⟨hs', -⟩ | ⟨codes, ht, rfl⟩
      · exact absurd (hc ▸ hs') hs
      · rw [hc] at ht
        refine settled_of_parts hp fun p hm => ?_
        obtain ⟨code, hcode, rfl⟩ := List.mem_map.mp hm
        refine ih (List.all_eq_true.mp (plainCode_parts _ ht) code hcode) ?_
        cases hb : (nested steps).testBit code with
        | false => rfl
        | true =>
          have hm : n ∈ above (nested steps) :=
            List.mem_map.mpr ⟨_, List.mem_filter.mpr ⟨ht, List.any_eq_true.mpr ⟨code, hcode, hb⟩⟩,
              rfl⟩
          rw [nested, testBit_mask.mpr hm] at h
          contradiction

theorem jamo_range {n : Nat} (h : IsSyllable n) : ∀ k ∈ jamo n, 0x1100 ≤ k ∧ k < 0x1200 := by
  obtain ⟨hl, hu⟩ := h
  intro k hk
  unfold jamo at hk
  dsimp only at hk
  split at hk <;> simp only [List.mem_append, List.mem_cons, List.not_mem_nil, or_false] at hk
  all_goals omega

theorem parts?_jamo {k : Nat} (h : 0x1100 ≤ k ∧ k < 0x1200) : parts? (Char.ofNat k) = none := by
  refine parts?_eq_none ?_ fun codes ht => ?_
  · simp only [plainCode, Bool.or_eq_true, decide_eq_true_eq]
    omega
  · have := table_jamo _ ht
    dsimp only at this
    omega

/-- What a character stands for takes at most two more steps. -/
theorem settled_parts {c : Char} {ps : List Char} (h : parts? c = some ps) :
    ∀ p ∈ ps, Settled 2 p := by
  intro p hp
  rcases parts?_eq_some h with ⟨hs, hps⟩ | ⟨codes, ht, hps⟩
  · rw [hps] at hp
    obtain ⟨k, hk, rfl⟩ := List.mem_map.mp hp
    exact settled_of_none (parts?_jamo (jamo_range hs k hk)) 2
  · rw [hps] at hp
    obtain ⟨code, hcode, rfl⟩ := List.mem_map.mp hp
    refine settled_of_nested (List.all_eq_true.mp (plainCode_parts _ ht) code hcode) ?_
    cases hb : (nested 2).testBit code with
    | false => rfl
    | true =>
      have hm : c.toNat ∈ above (nested 2) :=
        List.mem_map.mpr ⟨_, List.mem_filter.mpr ⟨ht, List.any_eq_true.mpr ⟨code, hcode, hb⟩⟩, rfl⟩
      rw [above_nested] at hm
      cases hm

theorem settled (c : Char) : Settled 3 c := by
  cases h : parts? c with
  | none => exact settled_of_none h 3
  | some ps => exact settled_of_parts h (settled_parts h)

/-- What is decomposed stands for nothing else. -/
theorem parts?_of_mem_decompose {cs : List Char} {d : Char} (h : d ∈ decompose cs) :
    parts? d = none := by
  obtain ⟨c, -, hd⟩ := List.mem_flatMap.mp h
  exact settled c d hd

theorem decompose_append (cs ds : List Char) :
    decompose (cs ++ ds) = decompose cs ++ decompose ds :=
  List.flatMap_append

theorem expand_of_none {c : Char} (h : parts? c = none) : expand 3 c = [c] := by
  simp only [expand, h]

theorem decompose_of_none {cs : List Char} (h : ∀ c ∈ cs, parts? c = none) :
    decompose cs = cs := by
  induction cs with
  | nil => rfl
  | cons c cs ih =>
    rw [decompose, List.flatMap_cons, expand_of_none (h c (by simp)), ← decompose,
      ih fun d hd => h d (by simp [hd])]
    rfl

/-- A character decomposes like what it stands for. -/
theorem expand_parts {c : Char} {ps : List Char} (h : parts? c = some ps) :
    expand 3 c = decompose ps := by
  rw [expand, h]
  exact List.flatMap_congr fun p hp => (expand_succ (settled_parts h p hp)).symm

end Metrology.Text.Canonical
