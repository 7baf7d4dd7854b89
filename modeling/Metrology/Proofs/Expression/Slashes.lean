import Metrology.Proofs.Expression.Spelling

namespace Metrology.Expression

def slashes (text : String) : Nat :=
  text.toList.count '/'

def inversions (ts : List Term) : Nat :=
  ts.countP (·.inverted)

theorem inversions_append (ts us : List Term) :
    inversions (ts ++ us) = inversions ts + inversions us :=
  List.countP_append

namespace Scanner

variable {s next last : Scanner} {c : Char} {handed : Option Term} {cs : List Char}
  {ts : List Term}

/-- The flag stays with the scanner, or goes to the term that it hands out. -/
theorem Move.inversions (h : s.Move c next handed) (hc : c ≠ '/') :
    inversions handed.toList + next.inverted.toNat = s.inverted.toNat := by
  cases h with
  | skip | letter | figure => simp [Expression.inversions]
  | slash hs => exact absurd hs hc
  | numerator _ _ _ hu => simp [Expression.inversions, reopen, hu]
  | @term _ _ e _ =>
    have ht : (s.term e).inverted = s.inverted := rfl
    cases hi : s.inverted <;> simp [Expression.inversions, reopen, ht, hi]

theorem Sound.inversions_run (hs : s.Sound) (hc : '/' ∉ cs) (h : s.run cs = (ts, .ok last)) :
    inversions ts + last.inverted.toNat = s.inverted.toNat := by
  induction cs generalizing s ts with
  | nil =>
    cases h
    exact Nat.zero_add _
  | cons c cs ih =>
    obtain ⟨next, handed, us, hstep, hrun, rfl⟩ := run_cons_ok h
    obtain ⟨hne, hcs⟩ := List.ne_and_not_mem_of_not_mem_cons hc
    have hmove := (hs.move hstep).inversions hne.symm
    have hrest := ih (hs.step hstep) hcs hrun
    rw [inversions_append]
    omega

/-- Behind a slash no term comes before an inverted one. -/
theorem Sound.run_inverted (hs : s.Sound) (hi : s.inverted = true)
    (h : s.run cs = (ts, .ok last)) (hl : last.inverted = false) :
    ∃ t us, ts = t :: us ∧ t.inverted = true := by
  induction cs generalizing s ts with
  | nil =>
    cases h
    rw [hi] at hl
    cases hl
  | cons c cs ih =>
    obtain ⟨next, handed, us, hstep, hrun, rfl⟩ := run_cons_ok h
    have hsound := hs.step hstep
    cases hs.move hstep with
    | skip | letter | figure => exact ih hsound hi hrun
    | slash => exact ih hsound rfl hrun
    | numerator _ _ _ hu =>
      rw [hi] at hu
      cases hu
    | term => exact ⟨_, us, rfl, hi⟩

/-- A slash that no term has taken has nothing but blanks behind it. -/
theorem Sound.run_flagged (hs : s.Sound) (hc : '/' ∉ cs) (h : s.run cs = (ts, .ok last))
    (hl : last.inverted = true) (hp : last.pending = []) :
    s.inverted = true ∧ s.pending = [] ∧ ∀ d ∈ cs, Text.isBlank d = true := by
  induction cs generalizing s ts with
  | nil =>
    cases h
    exact ⟨hl, hp, by simp⟩
  | cons c cs ih =>
    obtain ⟨next, handed, us, hstep, hrun, rfl⟩ := run_cons_ok h
    obtain ⟨hne, hcs⟩ := List.ne_and_not_mem_of_not_mem_cons hc
    obtain ⟨hi, hnp, hblanks⟩ := ih (hs.step hstep) hcs hrun
    cases hs.move hstep with
    | skip hb => exact ⟨hi, hnp, List.forall_mem_cons.mpr ⟨hb, hblanks⟩⟩
    | slash hd => exact absurd hd.symm hne
    | letter | figure => simp [pending] at hnp
    | numerator | term => cases hi

theorem run_blanks (b : Bool) (h : ∀ c ∈ cs, Text.isBlank c = true) :
    Scanner.run { inverted := b } cs = ([], .ok { inverted := b }) := by
  induction cs with
  | nil => rfl
  | cons c cs ih =>
    have hp : Scanner.pending { inverted := b } = [] := rfl
    have hrest := ih fun d hd => h d (by simp [hd])
    simp only [run, step_blank hp (h c (by simp)), hrest]
    rfl

end Scanner

/-- What a text is scanned to, up to the blank behind it: some terms, and perhaps a slash that none
of them has taken. -/
def Reaches (cs : List Char) (ts : List Term) (b : Bool) : Prop :=
  ({} : Scanner).run (plain cs ++ [' ']) = (ts, .ok { inverted := b })

variable {cs ds : List Char} {ts : List Term} {b : Bool}

theorem reaches_of_scan {text : String} (h : scan text = ⟨ts, none⟩) :
    Reaches text.toList ts false := by
  obtain ⟨hts, last, hl, hi⟩ := (scan_eq_iff text ts).mp h
  have hrun : ({} : Scanner).run ((plainSpelling text).toList ++ [' ']) = (ts, .ok last) :=
    Prod.ext hts hl
  have hlast := Scanner.run_concat_blank (Scanner.sound_start false) (by decide) hrun
  rw [hi] at hlast
  rw [plainSpelling_eq, hlast] at hrun
  exact hrun

theorem Reaches.scan_terms {text : String} (h : Reaches text.toList ts b) :
    (scan text).terms = ts := by
  unfold Reaches at h
  unfold scan
  rw [plainSpelling_eq, h]

/-- The part in front of a slash is scanned on its own, and the part behind it as inverted. -/
theorem Reaches.split (h : Reaches (cs ++ '/' :: ds) ts b) :
    ∃ us a vs, Reaches cs us a ∧
      Scanner.run { inverted := true } (plain ds ++ [' ']) = (vs, .ok { inverted := b }) ∧
      ts = us ++ vs := by
  have hb : Text.isBlank ' ' = true := by decide
  have hs : spelled '/' = [' ', '/'] := by decide
  have hd : Text.Canonical.Divides '/' '/' := divides_sign (by decide)
  have he : plain (cs ++ '/' :: ds) ++ [' '] = (plain cs ++ [' ']) ++ '/' :: (plain ds ++ [' ']) := by
    rw [plain_divides hd, hs]
    simp
  rw [Reaches, he, Scanner.run_append] at h
  split at h
  · cases h
  · rename_i us next hfront
    have hnext := Scanner.run_concat_blank (Scanner.sound_start false) hb hfront
    rw [Scanner.run, Scanner.step_slash] at h
    rw [hnext] at h hfront
    obtain ⟨hts, hlast⟩ := Prod.mk.inj h
    exact ⟨us, next.inverted, _, hfront, Prod.ext rfl hlast, hts.symm⟩

/-- Whether two slashes of a text have nothing but blanks between them. -/
def Doubled (cs : List Char) : Prop :=
  ∃ before between after, cs = before ++ '/' :: (between ++ '/' :: after) ∧
    ∀ c ∈ plain between, Text.isBlank c = true

theorem Doubled.append (h : Doubled cs) (ds : List Char) : Doubled (cs ++ ds) := by
  obtain ⟨before, between, after, rfl, hb⟩ := h
  exact ⟨before, between, after ++ ds, by simp, hb⟩

/-- Texts are taken apart at their last slash. -/
theorem slash_induction {P : List Char → Prop} (plain : ∀ cs, '/' ∉ cs → P cs)
    (slash : ∀ cs ds, '/' ∉ ds → P cs → P (cs ++ '/' :: ds)) (cs : List Char) : P cs := by
  by_cases h : '/' ∈ cs
  · obtain ⟨back, front, he, hn⟩ := List.eq_append_cons_of_mem (List.mem_reverse.mpr h)
    have hcs : cs = front.reverse ++ '/' :: back.reverse := by
      rw [← List.reverse_reverse cs, he]
      simp
    rw [hcs]
    exact slash _ _ (by simpa using hn) (slash_induction plain slash front.reverse)
  · exact plain cs h
termination_by cs.length
decreasing_by
  rw [hcs]
  simp

theorem inversions_plain (hn : '/' ∉ cs) {a : Bool}
    (h : Scanner.run { inverted := a } (plain cs ++ [' ']) = (ts, .ok { inverted := b })) :
    inversions ts + b.toNat = a.toNat := by
  have hp : '/' ∉ plain cs ++ [' '] := by simpa using slash_not_mem_plain hn
  exact (Scanner.sound_start a).inversions_run hp h

/-- No slash inverts more than one term. -/
theorem Reaches.inversions_le (h : Reaches cs ts b) :
    inversions ts + b.toNat ≤ cs.count '/' := by
  induction cs using slash_induction generalizing ts b with
  | plain cs hn =>
    have he := inversions_plain hn h
    rw [Bool.toNat_false] at he
    omega
  | slash cs ds hn ih =>
    obtain ⟨us, a, vs, hus, hvs, rfl⟩ := h.split
    have hfront := ih hus
    have hback := inversions_plain hn hvs
    rw [Bool.toNat_true] at hback
    rw [inversions_append, List.count_append, List.count_cons_self]
    omega

/-- Each slash is taken by a term, or is followed by nothing but blanks. Where no two slashes are so
close, each of them inverts a term of its own. -/
theorem Reaches.inversions_eq (h : Reaches cs ts b) (hd : ¬Doubled cs) :
    inversions ts + b.toNat = cs.count '/' ∧
      (b = true → ∃ before after, cs = before ++ '/' :: after ∧
        ∀ c ∈ plain after, Text.isBlank c = true) := by
  induction cs using slash_induction generalizing ts b with
  | plain cs hn =>
    have he := inversions_plain hn h
    rw [Bool.toNat_false] at he
    rw [List.count_eq_zero_of_not_mem hn]
    refine ⟨he, ?_⟩
    rintro rfl
    rw [Bool.toNat_true] at he
    omega
  | slash cs ds hn ih =>
    obtain ⟨us, a, vs, hus, hvs, rfl⟩ := h.split
    obtain ⟨hfront, hclose⟩ := ih hus fun hcs => hd (hcs.append _)
    have ha : a = false := by
      by_contra hne
      obtain ⟨before, between, rfl, hb⟩ := hclose (Bool.eq_true_of_not_eq_false hne)
      exact hd ⟨before, between, ds, by simp, hb⟩
    have hback := inversions_plain hn hvs
    rw [ha, Bool.toNat_false] at hfront
    rw [Bool.toNat_true] at hback
    refine ⟨?_, ?_⟩
    · rw [inversions_append, List.count_append, List.count_cons_self,
        List.count_eq_zero_of_not_mem hn]
      omega
    · rintro rfl
      have hp : '/' ∉ plain ds ++ [' '] := by simpa using slash_not_mem_plain hn
      obtain ⟨-, -, hb⟩ := (Scanner.sound_start true).run_flagged hp hvs rfl rfl
      exact ⟨cs, ds, rfl, fun c hc => hb c (List.mem_append_left _ hc)⟩

/-- A slash with nothing but blanks behind it is left over. -/
theorem Reaches.flagged (h : Reaches (cs ++ '/' :: ds) ts b)
    (hb : ∀ c ∈ plain ds, Text.isBlank c = true) : b = true := by
  obtain ⟨us, a, vs, -, hvs, -⟩ := h.split
  have hblank : ∀ c ∈ plain ds ++ [' '], Text.isBlank c = true := by
    intro c hc
    rcases List.mem_append.mp hc with hc | hc
    · exact hb c hc
    · rw [List.mem_singleton.mp hc]
      decide
  rw [Scanner.run_blanks true hblank] at hvs
  cases hvs
  rfl

/-- Whether the slashes of a text and the inverted ones of some terms go in pairs: there are as many
of these as of those, and the k-th slash stands between the k-th inverted term and the term before
it. The terms before it are those of the text before it. -/
structure Paired (text : String) (ts : List Term) : Prop where
  count : slashes text = inversions ts
  placed : ∀ before after, text = before ++ "/" ++ after → ∃ us t vs, ts = us ++ t :: vs ∧
    (scan before).terms = us ∧ t.inverted = true ∧ inversions us = slashes before

theorem toList_slashed (before after : String) :
    (before ++ "/" ++ after).toList = before.toList ++ '/' :: after.toList := by
  simp

/-- The term behind a slash is inverted. The terms in front are those of the text in front. -/
theorem inverted_of_slash {before after : String} {ts : List Term}
    (h : scan (before ++ "/" ++ after) = ⟨ts, none⟩) :
    ∃ a t vs, Reaches before.toList (scan before).terms a ∧ ts = (scan before).terms ++ t :: vs ∧
      t.inverted = true := by
  have hr := reaches_of_scan h
  rw [toList_slashed] at hr
  obtain ⟨us, a, vs, hus, hvs, rfl⟩ := hr.split
  obtain ⟨t, vs, rfl, ht⟩ := (Scanner.sound_start true).run_inverted rfl hvs rfl
  rw [hus.scan_terms]
  exact ⟨a, t, vs, hus, rfl, ht⟩

/-- In a text that scans, the term behind each slash is inverted, and there are no more inverted
terms than slashes. They go in pairs, the k-th slash and the k-th inverted term, exactly if no two
slashes have nothing but blanks between them. -/
theorem slashes_paired_iff {text : String} {ts : List Term} (h : scan text = ⟨ts, none⟩) :
    (∀ before after, text = before ++ "/" ++ after →
      ∃ t vs, ts = (scan before).terms ++ t :: vs ∧ t.inverted = true) ∧
    inversions ts ≤ slashes text ∧ (Paired text ts ↔ ¬Doubled text.toList) := by
  have hr := reaches_of_scan h
  refine ⟨?_, hr.inversions_le, ?_, ?_⟩
  · rintro before after rfl
    obtain ⟨a, t, vs, -, hts, ht⟩ := inverted_of_slash h
    exact ⟨t, vs, hts, ht⟩
  · -- In front of the second slash the first one is left over, and one inverted term is missing.
    rintro ⟨-, hp⟩ ⟨before, between, after, he, hb⟩
    have ht : text = String.ofList (before ++ '/' :: between) ++ "/" ++ String.ofList after := by
      apply String.toList_inj.mp
      rw [toList_slashed, String.toList_ofList, String.toList_ofList, he]
      simp
    obtain ⟨us, -, -, -, hus, -, hcount⟩ := hp _ _ ht
    subst ht
    obtain ⟨a, -, -, hr, -, -⟩ := inverted_of_slash h
    have hle := hr.inversions_le
    rw [String.toList_ofList] at hr
    rw [hr.flagged hb, hus, hcount, Bool.toNat_true] at hle
    exact absurd hle (Nat.not_succ_le_self _)
  · intro hd
    obtain ⟨hcount, -⟩ := hr.inversions_eq hd
    refine ⟨hcount.symm, ?_⟩
    rintro before after rfl
    obtain ⟨a, t, vs, hus, hts, ht⟩ := inverted_of_slash h
    rw [toList_slashed] at hd
    obtain ⟨hfront, hclose⟩ := hus.inversions_eq fun hb => hd (hb.append _)
    refine ⟨_, t, vs, hts, rfl, ht, ?_⟩
    cases a with
    | false =>
      rw [Bool.toNat_false, Nat.add_zero] at hfront
      exact hfront
    | true =>
      obtain ⟨front, between, he, hb⟩ := hclose rfl
      exact absurd ⟨front, between, after.toList, by simp [he], hb⟩ hd

/-- A text with one slash has no two of them. -/
theorem slashes_paired_iff_concentration :
    scan "kg/mol s" = ⟨[⟨"kg", 1, false⟩, ⟨"mol", 1, true⟩, ⟨"s", 1, false⟩], none⟩ ∧
      Paired "kg/mol s" [⟨"kg", 1, false⟩, ⟨"mol", 1, true⟩, ⟨"s", 1, false⟩] := by
  have h : scan "kg/mol s" = ⟨[⟨"kg", 1, false⟩, ⟨"mol", 1, true⟩, ⟨"s", 1, false⟩], none⟩ :=
    scan_eq_of_parts (by decide +kernel) (by decide +kernel)
  obtain ⟨-, -, hp⟩ := slashes_paired_iff h
  refine ⟨h, hp.mpr ?_⟩
  rintro ⟨before, between, after, he, -⟩
  have hc := congrArg (List.count '/') he
  have h1 : "kg/mol s".toList.count '/' = 1 := by decide
  rw [h1, List.count_append, List.count_cons_self, List.count_append, List.count_cons_self] at hc
  omega

/-- Two slashes in front of one term invert it once. -/
theorem slashes_doubled : scan "//m" = ⟨[⟨"m", 1, true⟩], none⟩ ∧
    slashes "//m" = 2 ∧ inversions [⟨"m", 1, true⟩] = 1 ∧ ¬Paired "//m" [⟨"m", 1, true⟩] := by
  refine ⟨scan_eq_of_parts (by decide +kernel) (by decide +kernel), by decide, by decide, ?_⟩
  intro hp
  exact absurd hp.count (by decide)

end Metrology.Expression
