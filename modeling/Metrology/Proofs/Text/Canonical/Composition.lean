import Metrology.Proofs.Text.Canonical.Decomposition
import Metrology.Proofs.Text.Canonical.Order

namespace Metrology.Text.Canonical

theorem find?_of_nodup {entries : List (Nat × Nat)} (hn : (entries.map (·.2)).Nodup)
    {entry : Nat × Nat} (he : entry ∈ entries) :
    entries.find? (fun e => e.2 == entry.2) = some entry := by
  induction entries with
  | nil => cases he
  | cons e entries ih =>
    rw [List.map_cons, List.nodup_cons] at hn
    rcases List.mem_cons.mp he with rfl | he
    · exact List.find?_cons_of_pos (by simp)
    · have hne : e.2 ≠ entry.2 := fun h => hn.1 (h ▸ List.mem_map.mpr ⟨entry, he, rfl⟩)
      rw [List.find?_cons_of_neg (by simpa using hne)]
      exact ih hn.2 he

/-- What a composite is made of, where no two pairs make the same one. -/
theorem findSome?_of_nodup {groups : List (Nat × List (Nat × Nat))}
    (hn : (groups.flatMap fun group => group.2.map (·.2)).Nodup)
    {group : Nat × List (Nat × Nat)} (hg : group ∈ groups)
    {entry : Nat × Nat} (he : entry ∈ group.2) :
    groups.findSome? (fun g => (g.2.find? fun e => e.2 == entry.2).map fun e => [e.1, g.1]) =
      some [entry.1, group.1] := by
  induction groups with
  | nil => cases hg
  | cons g groups ih =>
    rw [List.flatMap_cons, List.nodup_append'] at hn
    obtain ⟨hhead, htail, hapart⟩ := hn
    rcases List.mem_cons.mp hg with rfl | hg
    · rw [List.findSome?_cons, find?_of_nodup hhead he]
      rfl
    · have hm : entry.2 ∈ groups.flatMap fun group => group.2.map (·.2) :=
        List.mem_flatMap.mpr ⟨group, hg, List.mem_map.mpr ⟨entry, he, rfl⟩⟩
      have hf : g.2.find? (fun e => e.2 == entry.2) = none := by
        refine List.find?_eq_none.mpr fun e hme heq => ?_
        have he2 : e.2 = entry.2 := by simpa using heq
        exact hapart (List.mem_map.mpr ⟨e, hme, he2⟩) hm
      rw [List.findSome?_cons, hf]
      exact ih htail hg

theorem composites_new :
    allNew 0 (composites.flatMap fun group => group.2.map (·.2)) = true := by
  decide +kernel

theorem composites_plain :
    ∀ group ∈ composites, group.2.all (fun entry => 0xC0 ≤ entry.2 && plainCode entry.2) = true := by
  decide +kernel

theorem compositeParts?_of_mem {group : Nat × List (Nat × Nat)} (hg : group ∈ composites)
    {entry : Nat × Nat} (he : entry ∈ group.2) :
    compositeParts? entry.2 = some [entry.1, group.1] :=
  findSome?_of_nodup (nodup_of_allNew composites_new).1 hg he

theorem composite?_mem {a b n : Nat} (h : composite? a b = some n) :
    ∃ group, (b, group) ∈ composites ∧ (a, n) ∈ group := by
  obtain ⟨group, hg, hn⟩ := Option.bind_eq_some_iff.mp h
  obtain ⟨before, after, ht, -⟩ := List.lookup_eq_some_iff.mp hg
  obtain ⟨first, last, hs, -⟩ := List.lookup_eq_some_iff.mp hn
  exact ⟨group, by simp [ht], by simp [hs]⟩

/-- A composite of the table stands for the pair that makes it. -/
theorem parts?_composite {a b : Char} {n : Nat} (h : composite? a.toNat b.toNat = some n) :
    parts? (Char.ofNat n) = some [a, b] := by
  obtain ⟨group, hg, hn⟩ := composite?_mem h
  have hp := List.all_eq_true.mp (composites_plain _ hg) _ hn
  rw [Bool.and_eq_true, decide_eq_true_eq] at hp
  obtain ⟨hc, hs⟩ := plainCode_valid hp.2
  have hc0 : ¬n < 0xC0 := Nat.not_lt.mpr hp.1
  unfold IsSyllable at hs
  have hparts := compositeParts?_of_mem hg hn
  dsimp only at hparts
  simp only [parts?, hc, hc0, hs, if_false, hparts, Option.orElse_eq_orElse, Option.orElse_eq_or,
    Option.some_or, Option.map_some, List.map_cons, List.map_nil, Char.ofNat_toNat]

theorem parts?_syllable {n : Nat} (h : IsSyllable n) :
    parts? (Char.ofNat n) = some ((jamo n).map Char.ofNat) := by
  have hv : (Char.ofNat n).toNat = n := by
    obtain ⟨hl, hu⟩ := h
    have hv : n.isValidChar := by
      unfold Nat.isValidChar
      omega
    rw [Char.ofNat, dif_pos hv]
    rfl
  have h0 : ¬n < 0xC0 := by
    have := h.1
    omega
  dsimp only [parts?]
  rw [hv, if_neg h0]
  exact if_pos h

theorem expand_syllable {n : Nat} (h : IsSyllable n) :
    expand 3 (Char.ofNat n) = (jamo n).map Char.ofNat := by
  rw [expand_parts (parts?_syllable h)]
  refine decompose_of_none fun c hc => ?_
  obtain ⟨k, hk, rfl⟩ := List.mem_map.mp hc
  exact parts?_jamo (jamo_range h k hk)

theorem syllable?_eq_some {a b n : Nat} (h : syllable? a b = some n) :
    IsSyllable n ∧
      ((jamo n = [a, b] ∧ 0x1100 ≤ a ∧ a < 0x1200) ∨ (jamo n = jamo a ++ [b] ∧ IsSyllable a)) ∧
      0x1100 ≤ b ∧ b < 0x1200 := by
  unfold syllable? at h
  unfold IsSyllable
  split at h
  · obtain rfl := Option.some.inj h
    refine ⟨by omega, .inl ⟨?_, by omega⟩, by omega⟩
    dsimp only [jamo]
    rw [if_pos (by omega)]
    refine congrArg₂ (fun x y => [x, y]) ?_ ?_ <;> omega
  split at h
  · obtain rfl := Option.some.inj h
    refine ⟨by omega, .inr ⟨?_, by omega⟩, by omega⟩
    dsimp only [jamo]
    rw [if_neg (by omega), if_pos (by omega)]
    refine congrArg₂ (· ++ ·) (congrArg₂ (fun x y => [x, y]) ?_ ?_) (congrArg ([·]) ?_) <;> omega
  · contradiction

/-- What two characters compose to decomposes like the two. -/
theorem expand_compose? {a b c : Char} (h : compose? a b = some c) :
    expand 3 c = expand 3 a ++ expand 3 b := by
  have hpair : decompose [a, b] = expand 3 a ++ expand 3 b := by simp [decompose]
  unfold compose? at h
  split at h
  · contradiction
  obtain ⟨n, hn, rfl⟩ := Option.map_eq_some_iff.mp h
  cases hs : syllable? a.toNat b.toNat with
  | none =>
    rw [hs] at hn
    rw [← hpair]
    exact expand_parts (parts?_composite hn)
  | some m =>
    rw [hs] at hn
    obtain rfl : m = n := Option.some.inj hn
    obtain ⟨hm, hj, hb⟩ := syllable?_eq_some hs
    have hpb : expand 3 b = [b] := by
      have := expand_of_none (parts?_jamo hb)
      rwa [Char.ofNat_toNat] at this
    rw [expand_syllable hm, hpb]
    rcases hj with ⟨hj, ha⟩ | ⟨hj, ha⟩
    · have hpa := expand_of_none (parts?_jamo ha)
      rw [Char.ofNat_toNat] at hpa
      rw [hj, hpa]
      simp
    · have hpa := expand_syllable ha
      rw [Char.ofNat_toNat] at hpa
      rw [hj, hpa]
      simp

theorem blocked_eq {marks : List Char} {l : Char} (hl : l ∈ marks.getLast?) (c : Char) :
    blocked marks c = decide (combiningClass c ≤ combiningClass l) := by
  rw [blocked, hl]

/-- A character that is not blocked is of a higher class than every mark in front of it. -/
theorem lt_of_not_blocked {marks : List Char} {c : Char} (ho : Ordered marks)
    (hm : ∀ m ∈ marks, 0 < combiningClass m) (hb : blocked marks c = false) :
    ∀ m ∈ marks, 0 < combiningClass m ∧ combiningClass m < combiningClass c := by
  cases hl : marks.getLast? with
  | none =>
    rw [List.getLast?_eq_none_iff.mp hl]
    simp
  | some l =>
    rw [blocked_eq hl, decide_eq_false_iff_not, Nat.not_le] at hb
    obtain ⟨front, rfl⟩ := List.getLast?_eq_some_iff.mp hl
    have hc : (front ++ [l]).IsChain fun d e => combiningClass d ≤ combiningClass e := by
      refine List.IsChain.imp_of_mem_imp (fun d e _ he hf => ?_) ho
      have := hm e he
      rcases hf with h | h <;> omega
    have hp := (List.pairwise_append.mp (List.isChain_iff_pairwise.mp hc)).2.2
    intro m hmem
    refine ⟨hm m hmem, ?_⟩
    rcases List.mem_append.mp hmem with hf | hf
    · exact Nat.lt_of_le_of_lt (hp m hf l (by simp)) hb
    · rw [List.mem_singleton.mp hf]
      exact hb

/-- A character that is taken in leaves the rest in order. -/
theorem ordered_remove {marks rest : List Char} {c : Char} (ho : Ordered (marks ++ c :: rest))
    (hb : blocked marks c = false) : Ordered (marks ++ rest) := by
  obtain ⟨hm, hc, -⟩ := List.isChain_append.mp ho
  obtain ⟨hn, hr⟩ := List.isChain_cons.mp hc
  refine List.isChain_append.mpr ⟨hm, hr, ?_⟩
  intro l hl n hnr
  rw [blocked_eq hl, decide_eq_false_iff_not] at hb
  have := hn n hnr
  unfold Follows at this ⊢
  omega

theorem order_settle {base : Char} {marks rest : List Char} (ho : Ordered (marks ++ rest))
    (hm : ∀ m ∈ marks, 0 < combiningClass m) (ha : ∀ c ∈ marks ++ rest, parts? c = none) :
    order (decompose (settle base marks rest)) = order (expand 3 base ++ (marks ++ rest)) := by
  induction rest generalizing base marks with
  | nil =>
    rw [List.append_nil] at ha ⊢
    change order (expand 3 base ++ decompose marks) = _
    rw [decompose_of_none ha]
  | cons c rest ih =>
    have hc : expand 3 c = [c] := expand_of_none (ha c (by simp))
    rw [settle]
    split
    · rename_i joined hj
      cases hb : blocked marks c with
      | true => simp [hb] at hj
      | false =>
        simp only [hb, Bool.false_eq_true, if_false] at hj
        have hlt := lt_of_not_blocked (List.isChain_append.mp ho).1 hm hb
        rw [ih (ordered_remove ho hb) hm fun d hd => ha d (by
          rcases List.mem_append.mp hd with h | h <;> simp [h])]
        rw [expand_compose? hj, hc, List.append_assoc]
        exact order_append_congr (order_marks hlt rest) _
    split
    · have hr : order (decompose (settle c [] rest)) = order (expand 3 c ++ ([] ++ rest)) :=
        ih (List.isChain_append.mp ho).2.1.tail (by simp) fun d hd => ha d (by simp at hd; simp [hd])
      rw [hc] at hr
      change order (expand 3 base ++ decompose (marks ++ settle c [] rest)) = _
      rw [decompose_append, decompose_of_none fun d hd => ha d (by simp [hd])]
      exact order_append_congr (order_append_congr hr _) _
    · rename_i hz
      rw [ih (by rwa [List.append_assoc]) ?_ (by rwa [List.append_assoc]), List.append_assoc]
      · rfl
      · intro m hmem
        rcases List.mem_append.mp hmem with h | h
        · exact hm m h
        · rw [List.mem_singleton.mp h]
          omega

theorem order_compose {cs : List Char} (ho : Ordered cs) (ha : ∀ c ∈ cs, parts? c = none) :
    order (decompose (compose cs)) = order cs := by
  induction cs with
  | nil => rfl
  | cons c cs ih =>
    have hc : expand 3 c = [c] := expand_of_none (ha c (by simp))
    rw [compose]
    split
    · have hs : order (decompose (settle c [] cs)) = order (expand 3 c ++ ([] ++ cs)) :=
        order_settle ho.tail (by simp) fun d hd => ha d (.tail c hd)
      rw [hs, hc]
      rfl
    · change order (expand 3 c ++ decompose (compose cs)) = _
      rw [hc]
      exact order_append_congr (ih ho.tail fun d hd => ha d (by simp [hd])) [c]

end Metrology.Text.Canonical

namespace Metrology.Text

/-- The canonical form of a text is its own canonical form. -/
theorem canonical_canonical (text : String) : canonical (canonical text) = canonical text := by
  unfold canonical
  rw [String.toList_ofList]
  have ho := Canonical.ordered_order (Canonical.decompose text.toList)
  rw [Canonical.order_compose ho fun c hc =>
      Canonical.parts?_of_mem_decompose (Canonical.mem_order.mp hc),
    Canonical.order_of_ordered ho]

end Metrology.Text
