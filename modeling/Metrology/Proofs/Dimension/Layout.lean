import Metrology.Proofs.Expression.Powers

namespace Metrology

namespace Literal

theorem integerChars_injective : Function.Injective integerChars := by
  intro m n h
  have hm := splitSign_integerChars m []
  have hn := splitSign_integerChars n []
  rw [h, hn] at hm
  obtain ⟨hsign, hdigits⟩ := Prod.mk.inj hm
  rw [List.append_nil, List.append_nil] at hdigits
  have habs : some n.natAbs = some m.natAbs := by
    rw [← natural?_digits, ← natural?_digits, hdigits]
  rw [← applySign_natAbs m, ← applySign_natAbs n, hsign, Option.some.inj habs]

end Literal

namespace Expression

/-- The exponent characters can be told from their glyphs. -/
theorem raised_injective : Function.Injective raised := by
  intro m n h
  refine Literal.integerChars_injective ?_
  rw [← lower_raised m, ← lower_raised n, h]

end Expression

/-- The parts in front of and behind the first of some character. -/
theorem append_cons_inj {c : Char} {front first back rest : List Char} (hf : c ∉ front)
    (hb : c ∉ back) (h : front ++ c :: first = back ++ c :: rest) :
    front = back ∧ first = rest := by
  rcases List.append_eq_append_iff.mp h with ⟨m, rfl, hm⟩ | ⟨m, rfl, hm⟩
  · cases m with
    | nil => exact ⟨by simp, (List.cons.inj hm).2⟩
    | cons d m =>
      obtain ⟨rfl, -⟩ := List.cons.inj hm
      simp at hb
  · cases m with
    | nil => exact ⟨by simp, (List.cons.inj hm).2.symm⟩
    | cons d m =>
      obtain ⟨rfl, -⟩ := List.cons.inj hm
      simp at hf

/-- How a row of exponents is laid out: in front of each a character that no exponent has, then the
label of its axis, and in front of the exponent a character that no label has. -/
structure Layout where
  front : Char
  label : Axis → List Char
  mark : Char
  figure : Int → List Char
  label_injective : Function.Injective label
  figure_injective : Function.Injective figure
  mark_not_mem : ∀ axis, mark ∉ label axis
  front_not_mem : ∀ n, front ∉ figure n

namespace Layout

variable (l : Layout)

def part (p : Axis × Int) : List Char :=
  l.front :: (l.label p.1 ++ l.mark :: l.figure p.2)

/-- The parts, with one more front to end the last of them. -/
def row (ps : List (Axis × Int)) : List Char :=
  ps.flatMap l.part ++ [l.front]

theorem row_cons (p : Axis × Int) (ps : List (Axis × Int)) :
    l.row (p :: ps) = l.front :: (l.label p.1 ++ l.mark :: (l.figure p.2 ++ l.row ps)) := by
  simp [row, part]

theorem exists_row (ps : List (Axis × Int)) : ∃ cs, l.row ps = l.front :: cs := by
  cases ps with
  | nil => exact ⟨[], rfl⟩
  | cons p ps => exact ⟨_, l.row_cons p ps⟩

theorem row_injective : Function.Injective l.row := by
  intro ps qs h
  induction ps generalizing qs with
  | nil =>
    cases qs with
    | nil => rfl
    | cons q qs =>
      rw [row_cons] at h
      simp [row] at h
  | cons p ps ih =>
    cases qs with
    | nil =>
      rw [row_cons] at h
      simp [row] at h
    | cons q qs =>
      rw [row_cons, row_cons] at h
      obtain ⟨hlabel, hrest⟩ :=
        append_cons_inj (l.mark_not_mem p.1) (l.mark_not_mem q.1) (List.cons.inj h).2
      obtain ⟨cs, hcs⟩ := l.exists_row ps
      obtain ⟨ds, hds⟩ := l.exists_row qs
      rw [hcs, hds] at hrest
      obtain ⟨hfigure, htail⟩ :=
        append_cons_inj (l.front_not_mem p.2) (l.front_not_mem q.2) hrest
      have hrow : l.row ps = l.row qs := by rw [hcs, hds, htail]
      rw [ih hrow, Prod.ext (l.label_injective hlabel) (l.figure_injective hfigure)]

theorem parts_injective : Function.Injective (List.flatMap l.part) := by
  intro ps qs h
  refine l.row_injective ?_
  rw [row, row, h]

/-- In words, with superscript exponents. -/
def verbose : Layout where
  front := '['
  label axis := axis.label.toList
  mark := ']'
  figure := Expression.raised
  label_injective := by
    intro a b
    cases a <;> cases b <;> decide
  figure_injective := Expression.raised_injective
  mark_not_mem axis := by cases axis <;> decide
  front_not_mem n := by
    intro hm
    obtain ⟨c, hc, hr⟩ := List.mem_map.mp hm
    obtain ⟨⟨pair, hp, hg⟩, -⟩ :=
      Expression.raise_exponentChar (Expression.isExponentChar_integerChars c hc)
    have hall : ∀ pair ∈ Text.glyphs, pair.2 ≠ '[' := by decide
    exact hall pair hp (hg.trans hr)

/-- Named exponents, each behind a comma and a blank. -/
def listed : Layout where
  front := ','
  label axis := ' ' :: axis.name.toList
  mark := '='
  figure := Literal.integerChars
  label_injective := by
    intro a b
    cases a <;> cases b <;> decide
  figure_injective := Literal.integerChars_injective
  mark_not_mem axis := by cases axis <;> decide
  front_not_mem n := by
    intro hm
    have he := Expression.isExponentChar_integerChars _ hm
    contradiction

end Layout

namespace Dimension

/-- The exponents other than zero, in an order of the axes. -/
def powers (d : Dimension) (order : List Axis) : List (Axis × Int) :=
  (d.support order).map fun axis => (axis, d.exponent axis)

theorem mem_powers {d : Dimension} {order : List Axis} {axis : Axis} {n : Int} :
    (axis, n) ∈ d.powers order ↔ axis ∈ order ∧ d.exponent axis = n ∧ n ≠ 0 := by
  simp only [powers, support, List.mem_map, List.mem_filter, bne_iff_ne, Prod.mk.injEq]
  constructor
  · rintro ⟨_, ⟨hm, hne⟩, rfl, rfl⟩
    exact ⟨hm, rfl, hne⟩
  · rintro ⟨hm, rfl, hne⟩
    exact ⟨axis, ⟨hm, hne⟩, rfl, rfl⟩

theorem powers_injective {order : List Axis} (ho : ∀ axis, axis ∈ order) :
    Function.Injective fun d : Dimension => d.powers order := by
  intro a b h
  have hle {c d : Dimension} (h : c.powers order = d.powers order) {axis : Axis}
      (hne : c.exponent axis ≠ 0) : d.exponent axis = c.exponent axis := by
    have hm : (axis, c.exponent axis) ∈ c.powers order := mem_powers.mpr ⟨ho axis, rfl, hne⟩
    rw [h] at hm
    exact (mem_powers.mp hm).2.1
  refine eq_of_exponent_eq fun axis => ?_
  by_cases ha : a.exponent axis = 0
  · by_cases hb : b.exponent axis = 0
    · rw [ha, hb]
    · exact hle h.symm hb
  · exact (hle h ha).symm

theorem toList_verbose {d : Dimension} (h : d.Writable) :
    ∃ text, d.verbose = .ok text ∧
      text.toList = (d.powers Axis.written).flatMap Layout.verbose.part := by
  have hf : ∀ axis ∈ d.support Axis.written, d.factorText axis = _ :=
    fun axis _ => factorText_ok (h axis)
  refine ⟨_, by rw [verbose, mapM_eq_map hf]; rfl, ?_⟩
  rw [String.toList_join, powers, List.flatMap_map, List.flatMap_map]
  refine List.flatMap_congr fun axis _ => ?_
  rw [String.toList_append, String.toList_append, String.toList_append,
    Expression.toList_toSuperscript]
  simp [Layout.part, Layout.verbose]

theorem exponentText_ok {d : Dimension} {axis : Axis} (h : WritableInt (d.exponent axis)) :
    d.exponentText axis = .ok (axis.name ++ "=" ++ toString (d.exponent axis)) := by
  rw [exponentText, integerText_ok h]
  rfl

/-- A named exponent. -/
def entry (p : Axis × Int) : List Char :=
  p.1.name.toList ++ '=' :: Literal.integerChars p.2

theorem part_listed (p : Axis × Int) : Layout.listed.part p = [',', ' '] ++ entry p := rfl

theorem toList_shown {d : Dimension} (h : d.Writable) :
    ∃ text, d.shown = .ok text ∧ text.toList = "Dimension(".toList ++
      [',', ' '].intercalate ((d.powers Axis.all).map entry) ++ [')'] := by
  have hf : ∀ axis ∈ d.support Axis.all, d.exponentText axis = _ :=
    fun axis _ => exponentText_ok (h axis)
  refine ⟨_, by rw [shown, mapM_eq_map hf]; rfl, ?_⟩
  rw [String.toList_append, String.toList_append, String.toList_intercalate, powers, List.map_map,
    List.map_map]
  have hentry : (String.toList ∘ fun axis : Axis =>
      axis.name ++ "=" ++ toString (d.exponent axis)) =
        entry ∘ fun axis => (axis, d.exponent axis) := by
    funext axis
    rw [Function.comp, String.toList_append, String.toList_append, Literal.toList_toString,
      List.append_assoc]
    rfl
  rw [hentry]
  rfl

/-- What is joined by a separator, with one more separator in front. -/
theorem append_intercalate {sep x : List Char} {xs : List (List Char)} :
    sep ++ sep.intercalate (x :: xs) = (x :: xs).flatMap (sep ++ ·) := by
  induction xs generalizing x with
  | nil => simp
  | cons y xs ih =>
    rw [List.intercalate_cons_cons, List.append_assoc, ih]
    simp

/-- With one more separator in front, joined entries are a row of parts. -/
theorem append_entries {ps : List (Axis × Int)} (h : ps ≠ []) :
    [',', ' '] ++ [',', ' '].intercalate (ps.map entry) = ps.flatMap Layout.listed.part := by
  obtain ⟨p, ps, rfl⟩ := List.exists_cons_of_ne_nil h
  rw [List.map_cons, append_intercalate, ← List.map_cons (f := entry), List.flatMap_map]
  exact List.flatMap_congr fun p _ => (part_listed p).symm

theorem entries_eq_nil_iff {ps : List (Axis × Int)} :
    [',', ' '].intercalate (ps.map entry) = [] ↔ ps = [] := by
  constructor
  · intro h
    by_contra hn
    have hr := append_entries hn
    obtain ⟨p, ps, rfl⟩ := List.exists_cons_of_ne_nil hn
    rw [h, List.flatMap_cons, part_listed, entry] at hr
    simp at hr
  · rintro rfl
    rfl

theorem entries_injective {ps qs : List (Axis × Int)}
    (h : [',', ' '].intercalate (ps.map entry) = [',', ' '].intercalate (qs.map entry)) :
    ps = qs := by
  by_cases hp : ps = []
  · rw [hp, eq_comm]
    rwa [entries_eq_nil_iff.mpr hp, eq_comm, entries_eq_nil_iff] at h
  · have hq : qs ≠ [] := by
      rintro rfl
      exact hp (entries_eq_nil_iff.mp h)
    refine Layout.listed.parts_injective ?_
    rw [← append_entries hp, ← append_entries hq, h]

/-- Whether each dimension whose exponents can be written has a text, and no two have the same. -/
structure Tells (text : Dimension → Except Failure String) : Prop where
  total : ∀ d, d.Writable → ∃ t, text d = .ok t
  injective : ∀ a b t, a.Writable → b.Writable → text a = .ok t → text b = .ok t → a = b

/-- A text tells the dimension if its characters do. -/
theorem Tells.of_toList {text : Dimension → Except Failure String}
    {chars : Dimension → List Char} (hc : Function.Injective chars)
    (h : ∀ {d : Dimension}, d.Writable → ∃ t, text d = .ok t ∧ t.toList = chars d) :
    Tells text where
  total d hw := by
    obtain ⟨t, ht, -⟩ := h hw
    exact ⟨t, ht⟩
  injective a b t ha hb hta htb := by
    obtain ⟨s, hs, hsl⟩ := h ha
    obtain ⟨r, hr, hrl⟩ := h hb
    obtain rfl : s = t := Except.ok.inj (hs.symm.trans hta)
    obtain rfl : r = s := Except.ok.inj (hr.symm.trans htb)
    exact hc (hsl.symm.trans hrl)

theorem tells_verbose : Tells verbose := by
  refine .of_toList (fun a b h => ?_) toList_verbose
  exact powers_injective Axis.mem_written (Layout.verbose.parts_injective h)

theorem tells_shown : Tells shown := by
  refine .of_toList (fun a b h => ?_) toList_shown
  have he := List.append_cancel_left (List.append_cancel_right h)
  exact powers_injective Axis.mem_all (entries_injective he)

/-- The names that are not made of parts, that of no dimension among them. -/
def known : List (Dimension × String) :=
  (0, "Dimensionless") :: Physics.names

theorem known_nodup : (known.map (·.2)).Nodup := by
  decide

theorem known_plain : ∀ entry ∈ known, entry.2.toList.head? ≠ some '[' := by
  decide

theorem name_eq (d : Dimension) :
    d.name = match known.lookup d with
      | some text => .ok text
      | none => d.verbose := by
  unfold name known
  rw [List.lookup_cons]
  by_cases h : d = 0
  · subst h
    exact if_pos ((isDimensionless_iff 0).mpr rfl)
  · rw [beq_eq_false_iff_ne.mpr h]
    exact if_neg (mt (isDimensionless_iff d).mp h)

theorem mem_known {d : Dimension} {text : String} (h : known.lookup d = some text) :
    (d, text) ∈ known := by
  obtain ⟨before, after, he, -⟩ := List.lookup_eq_some_iff.mp h
  rw [he]
  simp

theorem ne_zero_of_unknown {d : Dimension} (h : known.lookup d = none) : d ≠ 0 := by
  rintro rfl
  exact absurd h (by decide)

/-- What has exponents is told in words that start with a bracket. -/
theorem head_verbose {d : Dimension} (h0 : d ≠ 0) (h : d.Writable) {text : String}
    (ht : d.verbose = .ok text) : text.toList.head? = some '[' := by
  obtain ⟨s, hs, hsl⟩ := toList_verbose h
  obtain rfl : s = text := Except.ok.inj (hs.symm.trans ht)
  have hne : d.powers Axis.written ≠ [] := fun hn => h0 (powers_injective Axis.mem_written hn)
  obtain ⟨p, ps, hp⟩ := List.exists_cons_of_ne_nil hne
  rw [hsl, hp]
  rfl

theorem known_ne_verbose {a b : Dimension} {text : String} (ha : known.lookup a = some text)
    (hb : known.lookup b = none) (hw : b.Writable) : b.verbose ≠ .ok text := by
  intro ht
  exact known_plain _ (mem_known ha) (head_verbose (ne_zero_of_unknown hb) hw ht)

theorem tells_name : Tells name where
  total d h := name_ok_iff.mpr h
  injective a b t ha hb hta htb := by
    rw [name_eq] at hta htb
    cases hka : known.lookup a with
    | some s =>
      rw [hka] at hta
      obtain rfl : s = t := Except.ok.inj hta
      cases hkb : known.lookup b with
      | some r =>
        rw [hkb] at htb
        obtain rfl : r = s := Except.ok.inj htb
        have he := List.inj_on_of_nodup_map known_nodup (mem_known hka) (mem_known hkb) rfl
        exact congrArg Prod.fst he
      | none =>
        rw [hkb] at htb
        exact absurd htb (known_ne_verbose hka hkb hb)
    | none =>
      rw [hka] at hta
      cases hkb : known.lookup b with
      | some r =>
        rw [hkb] at htb
        obtain rfl : r = t := Except.ok.inj htb
        exact absurd hta (known_ne_verbose hkb hka ha)
      | none =>
        rw [hkb] at htb
        exact tells_verbose.injective a b t ha hb hta htb

end Dimension

end Metrology
