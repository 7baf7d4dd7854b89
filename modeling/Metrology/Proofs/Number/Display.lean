import Metrology.Number.Kind
import Metrology.Operand.Text
import Metrology.Proofs.Number.DecimalText
import Metrology.Proofs.Number.IntegerText

namespace Metrology

/-- Whether the text of a number for display is a literal that stands for that number. -/
def ReadsBack (kind : NumberKind) (n : Number) : Prop :=
  ∃ text, Operand.displayed (.number n) = .ok text ∧ kind.read text = .ok n

theorem readsBack_int_iff (n : Int) : ReadsBack .int (.int n) ↔ n.natAbs < pow10 15 := by
  constructor
  · rintro ⟨text, ht, hr⟩
    by_contra hwide
    have hexponent := Number.exponent_mem_displayed (Nat.le_of_not_lt hwide) ht
    rw [NumberKind.read, Literal.int?_exponent hexponent] at hr
    cases hr
  · intro h
    have hw : WritableInt n := Nat.lt_of_lt_of_le h (pow10_le (by decide))
    refine ⟨toString n, Number.displayed_short h, ?_⟩
    rw [NumberKind.read, Literal.int?_toString hw]

theorem readsBack_ratio {q : Rat} (h : WritableRat q) : ReadsBack .ratio (.ratio q) := by
  obtain ⟨text, ht, hq, -, -⟩ := ratioText_ok h
  refine ⟨text, ht, ?_⟩
  rw [NumberKind.read, hq]
  rfl

theorem readsBack_decimal (negative : Bool) {c : Nat} {e : Int}
    (h : Literal.decimalFits c e = true) : ReadsBack .decimal (.decimal (.finite negative c e)) := by
  refine ⟨_, rfl, ?_⟩
  rw [NumberKind.read, (Literal.decimal?_text negative h).2]

/-- The numbers of the exact kinds that can be written: integers, fractions whose integers are not too
long, and finite decimals of every coefficient and exponent that a decimal can have. -/
inductive ExactNumber : NumberKind → Number → Prop
  | int (n : Int) : ExactNumber .int (.int n)
  | ratio {q : Rat} (h : WritableRat q) : ExactNumber .ratio (.ratio q)
  | decimal (negative : Bool) {c : Nat} {e : Int} (h : Literal.decimalFits c e = true) :
      ExactNumber .decimal (.decimal (.finite negative c e))

/-- An exact number is displayed without loss unless it is an integer of more than fifteen digits. -/
theorem displayed_reads_back {kind : NumberKind} {n : Number} (h : ExactNumber kind n) :
    ReadsBack kind n ↔ ∀ k : Int, n = .int k → k.natAbs < pow10 15 := by
  cases h with
  | int n =>
    rw [readsBack_int_iff]
    constructor
    · rintro hn k he
      rwa [← Number.int.inj he]
    · intro hk
      exact hk n rfl
  | ratio h => exact iff_of_true (readsBack_ratio h) nofun
  | decimal negative h => exact iff_of_true (readsBack_decimal negative h) nofun

/-- A small debt, a seventh of it, and a zero that keeps its exponent. -/
theorem displayed_reads_back_debt : ReadsBack .int (.int (-999999999999999)) ∧
    ReadsBack .ratio (.ratio (-999999999999999 / 7)) ∧
    ReadsBack .decimal (.decimal (.finite true 0 40)) := by
  have hw : WritableRat (-999999999999999 / 7) := by decide +kernel
  have hf : Literal.decimalFits 0 40 = true := by decide +kernel
  refine ⟨(displayed_reads_back (.int _)).mpr ?_, (displayed_reads_back (.ratio hw)).mpr nofun,
    (displayed_reads_back (.decimal true hf)).mpr nofun⟩
  rintro k he
  rw [← Number.int.inj he]
  decide

/-- With one digit more an integer loses its last digit, and the text is no literal of an
integer. -/
theorem displayed_long_integer :
    Operand.displayed (.number (.int 1000000000000001)) = .ok "1e+15" ∧
      NumberKind.int.read "1e+15" = .error .badValue ∧
      ¬ReadsBack .int (.int 1000000000000001) := by
  have htext : Operand.displayed (.number (.int 1000000000000001)) = .ok "1e+15" := by
    decide +kernel
  have hread : NumberKind.int.read "1e+15" = .error .badValue := by
    rw [NumberKind.read, Literal.int?_exponent (by decide)]
  refine ⟨htext, hread, ?_⟩
  rintro ⟨text, ht, hr⟩
  rw [htext] at ht
  obtain rfl := Except.ok.inj ht
  rw [hread] at hr
  cases hr

end Metrology
