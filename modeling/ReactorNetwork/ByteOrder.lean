import Mathlib.Algebra.Order.Group.Nat
import Mathlib.Tactic.Ring

/-!
# Numbers with their bytes reversed

A number of a fixed width in bytes, read in the other order. Reversal by the first
byte and by the last byte are the same, so reversing twice restores every number
that has the width.
-/

namespace ReactorNetwork.ByteOrder

/-- The lowest byte of the value becomes the highest of the width. -/
def reverseBytes : Nat → Nat → Nat
  | 0, _ => 0
  | count + 1, value => value % 256 * 256 ^ count + reverseBytes count (value / 256)

/-- The reversed bytes fit in as many bytes. -/
theorem reverseBytes_lt (count value : Nat) : reverseBytes count value < 256 ^ count := by
  induction count generalizing value with
  | zero => simp [reverseBytes]
  | succ count inductionHypothesis =>
    have rest := inductionHypothesis (value / 256)
    have byte : value % 256 ≤ 255 := Nat.le_of_lt_succ (Nat.mod_lt value (by decide))
    calc value % 256 * 256 ^ count + reverseBytes count (value / 256)
        < 255 * 256 ^ count + 256 ^ count :=
          Nat.add_lt_add_of_le_of_lt (Nat.mul_le_mul_right _ byte) rest
      _ = 256 ^ (count + 1) := by ring

/-- The highest byte of the width becomes the lowest. -/
theorem reverseBytes_high (count value : Nat) :
    reverseBytes (count + 1) value =
      256 * reverseBytes count value + value / 256 ^ count % 256 := by
  induction count generalizing value with
  | zero => simp [reverseBytes]
  | succ count inductionHypothesis =>
    have shifted : value / 256 / 256 ^ count = value / 256 ^ (count + 1) := by
      rw [Nat.div_div_eq_div_mul, Nat.pow_succ, Nat.mul_comm]
    rw [reverseBytes, inductionHypothesis, shifted, reverseBytes]
    ring

/-- Bytes above the width are not read. -/
theorem reverseBytes_above (count high low : Nat) :
    reverseBytes count (high * 256 ^ count + low) = reverseBytes count low := by
  induction count generalizing high low with
  | zero => rfl
  | succ count inductionHypothesis =>
    have split : high * 256 ^ (count + 1) + low = low + 256 * (high * 256 ^ count) := by ring
    rw [reverseBytes, split, Nat.add_mul_mod_self_left, Nat.add_mul_div_left _ _ (by decide),
      Nat.add_comm (low / 256), inductionHypothesis, reverseBytes]

/-- Reversing twice restores a number of the width.

Proof: the outer reversal is read from the highest byte, which the inner one has put
there from the lowest. -/
theorem reverseBytes_twice (count value : Nat) (fits : value < 256 ^ count) :
    reverseBytes count (reverseBytes count value) = value := by
  induction count generalizing value with
  | zero => simpa [reverseBytes, eq_comm] using fits
  | succ count inductionHypothesis =>
    have below := reverseBytes_lt count (value / 256)
    have inner : reverseBytes (count + 1) value =
        value % 256 * 256 ^ count + reverseBytes count (value / 256) := rfl
    have top : (value % 256 * 256 ^ count + reverseBytes count (value / 256)) / 256 ^ count =
        value % 256 := by
      rw [Nat.mul_comm, Nat.mul_add_div (Nat.pow_pos (by decide)), Nat.div_eq_of_lt below,
        Nat.add_zero]
    have rest : value / 256 < 256 ^ count := by
      rw [Nat.div_lt_iff_lt_mul (by decide), ← Nat.pow_succ]
      exact fits
    rw [reverseBytes_high, inner, top, reverseBytes_above, inductionHypothesis _ rest,
      Nat.mod_mod, Nat.div_add_mod]

end ReactorNetwork.ByteOrder
