namespace Metrology

def pow2 (k : Nat) : Nat :=
  Nat.pow 2 k

def pow10 (k : Nat) : Nat :=
  Nat.pow 10 k

/-- The number of decimal digits, one for zero. -/
def digitCount (n : Nat) : Nat :=
  (Nat.toDigits 10 n).length

def roundHalfEven (n d : Nat) : Nat :=
  let q := n / d
  let r := n % d
  if 2 * r < d then q
  else if d < 2 * r then q + 1
  else q + q % 2

/-- The number without its last digits, rounded. -/
def dropDigits (n count : Nat) : Nat :=
  if digitCount n < count then 0 else roundHalfEven n (pow10 count)

theorem pow10_succ (k : Nat) : pow10 (k + 1) = pow10 k * 10 := Nat.pow_succ 10 k

theorem pow10_pos (k : Nat) : 0 < pow10 k := Nat.pow_pos (by decide)

theorem pow10_le {j k : Nat} (h : j ≤ k) : pow10 j ≤ pow10 k :=
  Nat.pow_le_pow_right (by decide) h

theorem digitCount_le_iff {n k : Nat} (h : 0 < k) : digitCount n ≤ k ↔ n < pow10 k :=
  Nat.length_toDigits_le_iff (by decide) h

theorem digitCount_pos (n : Nat) : 0 < digitCount n :=
  List.length_pos_iff.mpr Nat.toDigits_ne_nil

theorem lt_pow10_digitCount (n : Nat) : n < pow10 (digitCount n) :=
  (digitCount_le_iff (digitCount_pos n)).mp (Nat.le_refl _)

theorem roundHalfEven_one (n : Nat) : roundHalfEven n 1 = n := by
  simp [roundHalfEven, Nat.mod_one]

theorem roundHalfEven_of_small {n d : Nat} (h : 2 * n < d) : roundHalfEven n d = 0 := by
  have hn : n < d := by omega
  simp [roundHalfEven, Nat.div_eq_of_lt hn, Nat.mod_eq_of_lt hn, h]

/-- Nothing is left of a number with fewer digits than are dropped. -/
theorem dropDigits_eq (n count : Nat) : dropDigits n count = roundHalfEven n (pow10 count) := by
  unfold dropDigits
  split
  · next h =>
    refine (roundHalfEven_of_small ?_).symm
    have low := lt_pow10_digitCount n
    have step := pow10_le (Nat.succ_le_of_lt h)
    have grow := pow10_succ (digitCount n)
    have pos := pow10_pos (digitCount n)
    simp only [Nat.succ_eq_add_one] at step
    omega
  · rfl

end Metrology
