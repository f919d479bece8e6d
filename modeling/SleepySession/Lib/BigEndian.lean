import Mathlib.Tactic

/-!
# Big-endian numbers

Unsigned and two's complement numbers in a fixed number of bytes, and how they
are read back from the middle of a list of bytes.
-/

namespace SleepySession

/-- The number that bytes denote, most significant byte first. -/
def beNat (bytes : List UInt8) : Nat :=
  bytes.foldl (fun n b => n * 256 + b.toNat) 0

/-- The last `width` base-256 digits of a number. -/
def beBytes : Nat → Nat → List UInt8
  | 0, _ => []
  | width + 1, n => beBytes width (n / 256) ++ [UInt8.ofNat (n % 256)]

/-- Two's complement: the signed number of `bits` bits. -/
def toSigned (bits n : Nat) : Int :=
  if n < 2 ^ (bits - 1) then (n : Int) else (n : Int) - 2 ^ bits

/-- Two's complement: the bits of a signed number. -/
def ofSigned (bits : Nat) (i : Int) : Nat :=
  (i % 2 ^ bits).toNat

/-- A number of `bits` bits with a sign. -/
def SignedRange (bits : Nat) (i : Int) : Prop :=
  -2 ^ (bits - 1) ≤ i ∧ i < 2 ^ (bits - 1)

instance (bits : Nat) (i : Int) : Decidable (SignedRange bits i) :=
  inferInstanceAs (Decidable (_ ∧ _))

@[simp] theorem length_beBytes (width n : Nat) : (beBytes width n).length = width := by
  induction width generalizing n with
  | zero => rfl
  | succ width ih => simp [beBytes, ih]

theorem beNat_append_singleton (bytes : List UInt8) (b : UInt8) :
    beNat (bytes ++ [b]) = beNat bytes * 256 + b.toNat := by
  simp [beNat]

theorem beNat_beBytes {width n : Nat} (h : n < 256 ^ width) :
    beNat (beBytes width n) = n := by
  induction width generalizing n with
  | zero =>
      have : n = 0 := by simpa using h
      simp [beBytes, beNat, this]
  | succ width ih =>
      have hdiv : n / 256 < 256 ^ width := by
        rw [Nat.div_lt_iff_lt_mul (by norm_num)]
        rwa [pow_succ] at h
      have hdigit : (UInt8.ofNat (n % 256)).toNat = n % 256 := by
        simp
      rw [beBytes, beNat_append_singleton, ih hdiv, hdigit]
      omega

theorem toSigned_ofSigned {bits : Nat} {i : Int} (hbits : 0 < bits) (h : SignedRange bits i) :
    toSigned bits (ofSigned bits i) = i := by
  obtain ⟨hlow, hhigh⟩ := h
  have hpow : (2 : Int) ^ bits = 2 * 2 ^ (bits - 1) := by
    obtain ⟨k, rfl⟩ : ∃ k, bits = k + 1 := ⟨bits - 1, by omega⟩
    rw [pow_succ, mul_comm]
    rfl
  have hpos : (0 : Int) < 2 ^ (bits - 1) := by positivity
  have hcast : ((ofSigned bits i : Nat) : Int) = i % 2 ^ bits :=
    Int.toNat_of_nonneg (Int.emod_nonneg _ (by positivity))
  have hlt : ofSigned bits i < 2 ^ (bits - 1) ↔ i % 2 ^ bits < 2 ^ (bits - 1) := by
    rw [← hcast]
    exact_mod_cast Iff.rfl
  unfold toSigned
  rcases lt_or_ge i 0 with hneg | hnonneg
  · have hmod : i % 2 ^ bits = i + 2 ^ bits := by
      rw [← Int.add_emod_right, Int.emod_eq_of_lt (by omega) (by omega)]
    rw [if_neg (by rw [hlt, hmod]; omega), hcast, hmod]
    ring
  · have hmod : i % 2 ^ bits = i := Int.emod_eq_of_lt hnonneg (by omega)
    rw [if_pos (by rw [hlt, hmod]; omega), hcast, hmod]

theorem ofSigned_lt {bits : Nat} (i : Int) : ofSigned bits i < 2 ^ bits := by
  have hlt : i % 2 ^ bits < 2 ^ bits := Int.emod_lt_of_pos _ (by positivity)
  have hnonneg : 0 ≤ i % 2 ^ bits := Int.emod_nonneg _ (by positivity)
  unfold ofSigned
  zify
  rw [Int.toNat_of_nonneg hnonneg]
  exact hlt

theorem signedRange_toSigned {bits n : Nat} (hbits : 0 < bits) (h : n < 2 ^ bits) :
    SignedRange bits (toSigned bits n) := by
  have hpow : (2 : Nat) ^ bits = 2 * 2 ^ (bits - 1) := by
    obtain ⟨k, rfl⟩ : ∃ k, bits = k + 1 := ⟨bits - 1, by omega⟩
    rw [pow_succ, mul_comm]
    rfl
  have hpow' : (2 : Int) ^ bits = 2 * 2 ^ (bits - 1) := by exact_mod_cast hpow
  have hcast : ((2 ^ (bits - 1) : Nat) : Int) = 2 ^ (bits - 1) := by push_cast; rfl
  unfold toSigned SignedRange
  split <;> constructor <;> omega

theorem beNat_lt (bytes : List UInt8) : beNat bytes < 256 ^ bytes.length := by
  induction bytes using List.reverseRecOn with
  | nil => simp [beNat]
  | append_singleton bytes b ih =>
      have hb : b.toNat < 256 := b.toNat_lt
      rw [beNat_append_singleton, List.length_append, List.length_singleton, pow_succ]
      omega

end SleepySession
