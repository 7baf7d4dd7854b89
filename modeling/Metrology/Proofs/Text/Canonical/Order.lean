import Mathlib.Data.List.Chain
import Metrology.Text.Canonical

namespace Metrology.Text.Canonical

/-- Whether a character may stand directly behind another one. -/
def Follows (d c : Char) : Prop :=
  combiningClass c = 0 ∨ combiningClass d ≤ combiningClass c

/-- Whether the marks after each base are in order of their classes. -/
def Ordered (cs : List Char) : Prop :=
  cs.IsChain Follows

/-- A character passes the marks of lower classes. -/
theorem place_pass {c d : Char} (h : 0 < combiningClass d ∧ combiningClass d < combiningClass c)
    (cs : List Char) : place c (d :: cs) = d :: place c cs :=
  if_pos h

theorem place_stop {c d : Char} (h : ¬(0 < combiningClass d ∧ combiningClass d < combiningClass c))
    (cs : List Char) : place c (d :: cs) = c :: d :: cs :=
  if_neg h

theorem place_of_ordered {c : Char} {cs : List Char} (h : Ordered (c :: cs)) :
    place c cs = c :: cs := by
  cases cs with
  | nil => rfl
  | cons d cs =>
    have hd : Follows c d := (List.isChain_cons_cons.mp h).1
    rw [place, if_neg]
    rintro ⟨hpos, hlt⟩
    rcases hd with hd | hd <;> omega

theorem order_of_ordered {cs : List Char} (h : Ordered cs) : order cs = cs := by
  induction cs with
  | nil => rfl
  | cons c cs ih =>
    change place c (order cs) = c :: cs
    rw [ih (List.IsChain.tail h), place_of_ordered h]

/-- What comes first after a character is placed: the character, or what came first before. -/
theorem head_place {c e : Char} {cs : List Char} (h : e ∈ (place c cs).head?) :
    e = c ∨ e ∈ cs.head? := by
  cases cs with
  | nil => exact .inl (Option.some.inj h).symm
  | cons d cs =>
    rw [place] at h
    split at h
    · exact .inr h
    · exact .inl (Option.some.inj h).symm

theorem ordered_place {c : Char} {cs : List Char} (h : Ordered cs) : Ordered (place c cs) := by
  induction cs with
  | nil => exact .singleton c
  | cons d cs ih =>
    rw [place]
    split
    · rename_i hc
      refine List.isChain_cons.mpr ⟨?_, ih (List.IsChain.tail h)⟩
      intro e he
      rcases head_place he with rfl | he
      · exact .inr (Nat.le_of_lt hc.2)
      · exact (List.isChain_cons.mp h).1 e he
    · rename_i hc
      refine List.isChain_cons_cons.mpr ⟨?_, h⟩
      unfold Follows
      omega

theorem ordered_order (cs : List Char) : Ordered (order cs) := by
  induction cs with
  | nil => exact .nil
  | cons c cs ih => exact ordered_place ih

theorem mem_place {c e : Char} {cs : List Char} : e ∈ place c cs ↔ e = c ∨ e ∈ cs := by
  induction cs with
  | nil => simp [place]
  | cons d cs ih =>
    rw [place]
    split
    · rw [List.mem_cons, ih, List.mem_cons]
      exact or_left_comm
    · simp

theorem mem_order {e : Char} {cs : List Char} : e ∈ order cs ↔ e ∈ cs := by
  induction cs with
  | nil => rfl
  | cons c cs ih =>
    change e ∈ place c (order cs) ↔ _
    rw [mem_place, ih, List.mem_cons]

/-- Two marks of different classes are placed in either order. -/
theorem place_comm {m c : Char} (hm : 0 < combiningClass m)
    (hc : combiningClass m < combiningClass c) (cs : List Char) :
    place c (place m cs) = place m (place c cs) := by
  have hmc : 0 < combiningClass m ∧ combiningClass m < combiningClass c := ⟨hm, hc⟩
  have hcm : ¬(0 < combiningClass c ∧ combiningClass c < combiningClass m) := by omega
  induction cs with
  | nil =>
    change place c [m] = place m [c]
    rw [place_pass hmc, place_stop hcm]
    rfl
  | cons d cs ih =>
    by_cases hdm : 0 < combiningClass d ∧ combiningClass d < combiningClass m
    · have hdc : 0 < combiningClass d ∧ combiningClass d < combiningClass c := by omega
      rw [place_pass hdm, place_pass hdc, place_pass hdc, place_pass hdm, ih]
    · rw [place_stop hdm, place_pass hmc]
      by_cases hdc : 0 < combiningClass d ∧ combiningClass d < combiningClass c
      · rw [place_pass hdc, place_stop hdm]
      · rw [place_stop hdc, place_stop hcm]

/-- A mark is placed in front of marks of lower classes or behind them. -/
theorem place_marks {c : Char} {marks : List Char}
    (h : ∀ m ∈ marks, 0 < combiningClass m ∧ combiningClass m < combiningClass c)
    (cs : List Char) : place c (marks.foldr place cs) = marks.foldr place (place c cs) := by
  induction marks with
  | nil => rfl
  | cons m marks ih =>
    obtain ⟨hm, hc⟩ := h m (by simp)
    rw [List.foldr_cons, List.foldr_cons, place_comm hm hc, ih fun n hn => h n (by simp [hn])]

theorem order_append (cs ds : List Char) : order (cs ++ ds) = cs.foldr place (order ds) :=
  List.foldr_append

/-- What is ordered may be any part of a text that has the same order. -/
theorem order_append_congr {ds es : List Char} (h : order ds = order es) (cs : List Char) :
    order (cs ++ ds) = order (cs ++ es) := by
  rw [order_append, order_append, h]

/-- A mark may be taken to the front of marks of lower classes. -/
theorem order_marks {c : Char} {marks : List Char}
    (h : ∀ m ∈ marks, 0 < combiningClass m ∧ combiningClass m < combiningClass c)
    (cs : List Char) : order (c :: (marks ++ cs)) = order (marks ++ c :: cs) := by
  change place c (order (marks ++ cs)) = _
  rw [order_append, place_marks h, order_append]
  rfl

/-- A base divides a text into parts that are ordered each on its own. -/
theorem place_base {c : Char} (h : combiningClass c = 0) (d : Char) (cs ds : List Char) :
    place d (cs ++ c :: ds) = place d cs ++ c :: ds := by
  induction cs with
  | nil =>
    have hn : ¬(0 < combiningClass c ∧ combiningClass c < combiningClass d) := by omega
    exact place_stop hn ds
  | cons e cs ih =>
    rw [List.cons_append, place, place]
    split
    · rw [ih, List.cons_append]
    · rfl

theorem order_base {c : Char} (h : combiningClass c = 0) (cs ds : List Char) :
    order (cs ++ c :: ds) = order cs ++ c :: order ds := by
  induction cs with
  | nil =>
    change place c (order ds) = c :: order ds
    cases order ds with
    | nil => rfl
    | cons d ds => exact place_stop (by omega) ds
  | cons d cs ih =>
    change place d (order (cs ++ c :: ds)) = place d (order cs) ++ _
    rw [ih, place_base h]

end Metrology.Text.Canonical
