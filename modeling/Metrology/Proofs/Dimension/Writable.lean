import Mathlib.Tactic.ByContra
import Metrology.Failure.Message
import Metrology.Proofs.Traversal

namespace Metrology

/-- Whether an integer keeps within the limit of digits. -/
def WritableInt (n : Int) : Prop :=
  n.natAbs < pow10 Literal.digitLimit

instance (n : Int) : Decidable (WritableInt n) :=
  inferInstanceAs (Decidable (_ < _))

theorem integerText_ok {n : Int} (h : WritableInt n) : integerText n = .ok (toString n) :=
  if_pos h

theorem integerText_error {n : Int} (h : ¬WritableInt n) : integerText n = .error .badValue :=
  if_neg h

theorem superscriptText_ok {n : Int} (h : WritableInt n) :
    superscriptText n = .ok (Text.toSuperscript (toString n)) := by
  rw [superscriptText, integerText_ok h]
  rfl

theorem superscriptText_error {n : Int} (h : ¬WritableInt n) :
    superscriptText n = .error .badValue := by
  rw [superscriptText, integerText_error h]
  rfl

theorem writableInt_of_small {n : Int} (h : n.natAbs < 10) : WritableInt n :=
  Nat.lt_of_lt_of_le h (pow10_le (j := 1) (by decide))

namespace Dimension

/-- Whether all exponents keep within the limit of digits. -/
def Writable (d : Dimension) : Prop :=
  ∀ axis, WritableInt (d.exponent axis)

instance (d : Dimension) : Decidable d.Writable :=
  decidable_of_iff (∀ axis ∈ Axis.all, WritableInt (d.exponent axis))
    ⟨fun h axis => h axis (Axis.mem_all axis), fun h axis _ => h axis⟩

theorem writable_zero : (0 : Dimension).Writable := by
  intro axis
  rw [exponent_zero]
  exact writableInt_of_small (by decide)

theorem not_writable_power {axis : Axis} {n : Nat} (h : pow10 Literal.digitLimit ≤ n) :
    ¬(power axis n).Writable := by
  intro hw
  have ha := hw axis
  rw [power, exponent_ofExponents, if_pos rfl, WritableInt, Int.natAbs_natCast] at ha
  exact absurd ha (Nat.not_lt.mpr h)

theorem factorText_ok {d : Dimension} {axis : Axis} (h : WritableInt (d.exponent axis)) :
    d.factorText axis =
      .ok ("[" ++ axis.label ++ "]" ++ Text.toSuperscript (toString (d.exponent axis))) := by
  rw [factorText, superscriptText_ok h]
  rfl

theorem verbose_ok {d : Dimension} (h : d.Writable) : ∃ text, d.verbose = .ok text := by
  have hf : ∀ axis ∈ d.support Axis.written, d.factorText axis = _ :=
    fun axis _ => factorText_ok (h axis)
  have hm := mapM_eq_map hf
  exact ⟨_, by rw [verbose, hm]; rfl⟩

theorem writable_of_verbose {d : Dimension} {text : String} (h : d.verbose = .ok text) :
    d.Writable := by
  intro axis
  by_cases h0 : d.exponent axis = 0
  · exact writableInt_of_small (by rw [h0]; decide)
  · by_contra hw
    unfold verbose at h
    cases hm : (d.support Axis.written).mapM d.factorText with
    | error e => simp [hm, Except.map] at h
    | ok texts =>
      have hs : axis ∈ d.support Axis.written :=
        List.mem_filter.mpr ⟨Axis.mem_written axis, by simpa using h0⟩
      obtain ⟨t, ht⟩ := mapM_ok hm axis hs
      rw [factorText, superscriptText_error hw] at ht
      cases ht

/-- Every dimension with a name of its own has small exponents. -/
theorem names_small : ∀ entry ∈ Physics.names, ∀ axis ∈ Axis.all,
    (entry.1.exponent axis).natAbs < 10 := by
  decide

theorem writable_of_lookup {d : Dimension} {known : String}
    (h : Physics.names.lookup d = some known) : d.Writable := by
  intro axis
  obtain ⟨before, after, hn, -⟩ := List.lookup_eq_some_iff.mp h
  have hm : (d, known) ∈ Physics.names := by simp [hn]
  exact writableInt_of_small (names_small (d, known) hm axis (Axis.mem_all axis))

/-- A dimension has a name, or a text in place of one, exactly if it is writable. -/
theorem name_ok_iff {d : Dimension} : (∃ text, d.name = .ok text) ↔ d.Writable := by
  constructor
  · rintro ⟨text, h⟩
    unfold name at h
    split at h
    · rename_i h0
      rw [(isDimensionless_iff d).mp h0]
      exact writable_zero
    · split at h
      · rename_i known hk
        exact writable_of_lookup hk
      · exact writable_of_verbose h
  · intro h
    unfold name
    split
    · exact ⟨_, rfl⟩
    · split
      · exact ⟨_, rfl⟩
      · exact verbose_ok h

end Dimension

/-- What an operation that takes one dimension says of two: it names them both. If one of them has
no text, all it can say is that a value is bad. -/
theorem mismatch_eq (operation : String) (left right : Dimension) :
    mismatch operation left right =
      if left.Writable ∧ right.Writable then .dimensionMismatch operation left right
      else .badValue := by
  unfold mismatch
  split
  · rename_i l r hl hr
    rw [if_pos ⟨Dimension.name_ok_iff.mp ⟨l, hl⟩, Dimension.name_ok_iff.mp ⟨r, hr⟩⟩]
  · rename_i hn
    rw [if_neg]
    rintro ⟨hl, hr⟩
    obtain ⟨l, hl⟩ := Dimension.name_ok_iff.mpr hl
    obtain ⟨r, hr⟩ := Dimension.name_ok_iff.mpr hr
    exact hn l r hl hr

end Metrology
