import Mathlib.Algebra.Ring.Int.Defs
import Mathlib.Algebra.Ring.Nat
import TransferReport.Text.Numeral

/-!
# Integers that can be written

An integer has a text exactly if it lies below the power of ten with as many zeros as there may be
digits.  The bound is kept as a power: nothing but the two integers next to it is ever computed.
-/

namespace TransferReport.Text

variable {m n : ℤ}

theorem isWritable_iff : isWritable n = true ↔ n.natAbs < 10 ^ digitLimit := by
  rw [isWritable, decide_eq_true_iff, Nat.length_toDigits_le_iff (by decide) (by decide)]

theorem isWritable_of_le (h : m.natAbs ≤ n.natAbs) (writable : isWritable n = true) :
    isWritable m = true :=
  isWritable_iff.2 (Nat.lt_of_le_of_lt h (isWritable_iff.1 writable))

theorem isWritable_of_lt {k : ℕ} (hk : k ≤ digitLimit) (h : n.natAbs < 10 ^ k) :
    isWritable n = true :=
  isWritable_iff.2 (Nat.lt_of_lt_of_le h (Nat.pow_le_pow_right (by decide) hk))

/-- A one and 3570 zeros in base sixteen: it can be written, but not a thousand times as much. -/
def nearlyTooLong : ℤ := 16 ^ 3570

def tooLong : ℤ := 1000 * nearlyTooLong

theorem isWritable_nearlyTooLong : isWritable nearlyTooLong := by
  have hdigits : nearlyTooLong.natAbs < 10 ^ digitLimit := by decide +kernel
  exact isWritable_iff.2 hdigits

theorem not_isWritable_tooLong : ¬ isWritable tooLong := by
  have hdigits : ¬ tooLong.natAbs < 10 ^ digitLimit := by decide +kernel
  exact fun writable ↦ hdigits (isWritable_iff.1 writable)

theorem not_isWritable_neg_tooLong : ¬ isWritable (-tooLong) :=
  fun writable ↦ not_isWritable_tooLong
    (isWritable_of_le (Nat.le_of_eq (Int.natAbs_neg tooLong).symm) writable)

theorem tooLong_pos : 0 < tooLong := by
  decide +kernel

end TransferReport.Text
