import Mathlib.Tactic

/-!
# Saturating arithmetic

The operations of `u64`, and of `usize` on the same machines, that stop at the
largest number.
-/

namespace SleepySession

/-- `u64::MAX`. -/
def u64Max : Nat :=
  UInt64.size - 1

/-- `u64::saturating_add`. -/
def saturatingAdd (a b : Nat) : Nat :=
  min (a + b) u64Max

/-- `u64::saturating_mul`. -/
def saturatingMul (a b : Nat) : Nat :=
  min (a * b) u64Max

variable {a a' b : Nat}

theorem saturatingAdd_le_add : saturatingAdd a b ≤ a + b :=
  Nat.min_le_left _ _

theorem saturatingAdd_mono (h : a ≤ a') : saturatingAdd a b ≤ saturatingAdd a' b :=
  min_le_min_right _ (Nat.add_le_add_right h b)

end SleepySession
