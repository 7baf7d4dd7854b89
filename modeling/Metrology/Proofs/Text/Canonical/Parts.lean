import Metrology.Proofs.Text.Canonical.Division

namespace Metrology.Text.Canonical

theorem place_perm (c : Char) (cs : List Char) : (place c cs).Perm (c :: cs) := by
  induction cs with
  | nil => exact .refl _
  | cons d cs ih =>
    rw [place]
    split
    · exact (ih.cons d).trans (.swap c d cs)
    · exact .refl _

theorem order_perm (cs : List Char) : (order cs).Perm cs := by
  induction cs with
  | nil => exact .refl _
  | cons c cs ih => exact (place_perm c (order cs)).trans (ih.cons c)

/-- The canonical form decomposes to what the text decomposes to. -/
theorem order_decompose_normal (cs : List Char) :
    order (decompose (normal cs)) = order (decompose cs) := by
  have ho := ordered_order (decompose cs)
  have hp : ∀ c ∈ order (decompose cs), parts? c = none := by
    intro c hc
    exact parts?_of_mem_decompose (mem_order.mp hc)
  rw [normal, order_compose ho hp, order_of_ordered ho]

theorem decompose_normal_perm (cs : List Char) : (decompose (normal cs)).Perm (decompose cs) := by
  have h := order_perm (decompose (normal cs))
  rw [order_decompose_normal] at h
  exact h.symm.trans (order_perm (decompose cs))

theorem normal_normal (cs : List Char) : normal (normal cs) = normal cs := by
  change compose (order (decompose (normal cs))) = _
  rw [order_decompose_normal]
  rfl

/-- A text with a character more behind it decomposes to more. -/
theorem length_decompose_lt {front back : List Char} {b c : Char} {rest : List Char}
    (hb : expand 3 b = [c]) (h : front = back ++ b :: rest) :
    (decompose back).length < (decompose front).length := by
  rw [h, decompose_append, decompose, decompose, List.flatMap_cons, hb]
  simp

/-- What stands on either side of a character that divides a canonical text is canonical. -/
theorem normal_parts {c g : Char} (h : Divides c g) {cs ds : List Char}
    (hn : normal (cs ++ c :: ds) = cs ++ c :: ds) : normal cs = cs ∧ normal ds = ds := by
  rw [normal_divides h] at hn
  have hlen : (decompose (normal cs)).length = (decompose cs).length :=
    (decompose_normal_perm cs).length_eq
  have hg : expand 3 g = [g] := by
    have hm : g ∈ expand 3 c := by simp [h.expand]
    exact expand_of_none (settled c g hm)
  -- If one of the two fronts were the longer one, it would hold the other one and the character
  -- that divides, and decompose to more.
  rcases List.append_eq_append_iff.mp hn with ⟨more, hcs, hds⟩ | ⟨more, hcs, hds⟩
  · cases more with
    | nil =>
      rw [List.append_nil] at hcs
      rw [List.nil_append] at hds
      exact ⟨hcs.symm, (List.cons.inj hds).2⟩
    | cons b more =>
      obtain ⟨rfl, -⟩ := List.cons.inj hds
      have := length_decompose_lt hg hcs
      omega
  · cases more with
    | nil =>
      rw [List.append_nil] at hcs
      rw [List.nil_append] at hds
      exact ⟨hcs, (List.cons.inj hds).2.symm⟩
    | cons b more =>
      obtain ⟨rfl, -⟩ := List.cons.inj hds
      have := length_decompose_lt h.expand hcs
      omega

/-- Whether two texts are the same once they are decomposed and their marks are in order. -/
def Equivalent (first second : List Char) : Prop :=
  order (decompose first) = order (decompose second)

instance (first second : List Char) : Decidable (Equivalent first second) :=
  inferInstanceAs (Decidable (order _ = order _))

theorem normal_eq_iff {first second : List Char} :
    normal first = normal second ↔ Equivalent first second := by
  constructor
  · intro h
    rw [Equivalent, ← order_decompose_normal, h, order_decompose_normal]
  · intro h
    exact congrArg compose h

/-- A character that stands for itself, and that no other one of the table stands for. -/
structure Underived (c : Char) : Prop where
  alone : parts? c = none
  absent : ∀ entry ∈ table, c.toNat ∉ entry.2

theorem underived_slash : Underived '/' :=
  ⟨by decide, by decide +kernel⟩

theorem Underived.eq_or_syllable {c d : Char} (h : Underived c) {steps : Nat}
    (hm : c ∈ expand steps d) : c = d ∨ IsSyllable d.toNat := by
  induction steps generalizing d with
  | zero => exact .inl (List.mem_singleton.mp hm)
  | succ steps ih =>
    rw [expand] at hm
    split at hm
    · exact .inl (List.mem_singleton.mp hm)
    rename_i ps hp
    obtain ⟨p, hps, hm⟩ := List.mem_flatMap.mp hm
    rcases parts?_eq_some hp with ⟨hs, -⟩ | ⟨codes, ht, rfl⟩
    · exact .inr hs
    · obtain ⟨code, hcode, rfl⟩ := List.mem_map.mp hps
      obtain ⟨hv, hs⟩ := plainCode_valid (List.all_eq_true.mp (plainCode_parts _ ht) code hcode)
      rcases ih hm with rfl | hs'
      · have hn := h.absent _ ht
        rw [hv] at hn
        exact absurd hcode hn
      · rw [hv] at hs'
        exact absurd hs' hs

theorem toNat_jamo {k : Nat} (h : 0x1100 ≤ k ∧ k < 0x1200) : (Char.ofNat k).toNat = k := by
  have hv : plainCode k = true := by
    simp only [plainCode, Bool.or_eq_true, decide_eq_true_eq]
    omega
  exact (plainCode_valid hv).1

/-- Such a character stands in a canonical form only if it stood in the text. -/
theorem Underived.mem_of_mem_normal {c : Char} (h : Underived c) (hl : c.toNat < 0x1100)
    {cs : List Char} (hm : c ∈ normal cs) : c ∈ cs := by
  have hd : c ∈ decompose (normal cs) :=
    List.mem_flatMap.mpr ⟨c, hm, by simp [expand_of_none h.alone]⟩
  obtain ⟨d, hd, hcd⟩ := List.mem_flatMap.mp ((decompose_normal_perm cs).mem_iff.mp hd)
  rcases h.eq_or_syllable hcd with rfl | hs
  · exact hd
  · have he := expand_syllable hs
    rw [Char.ofNat_toNat] at he
    rw [he] at hcd
    obtain ⟨k, hk, rfl⟩ := List.mem_map.mp hcd
    have hr := jamo_range hs k hk
    rw [toNat_jamo hr] at hl
    omega

end Metrology.Text.Canonical
