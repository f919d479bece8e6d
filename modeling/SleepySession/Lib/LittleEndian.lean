import SleepySession.Lib.BigEndian

/-!
# Little-endian numbers

Unsigned numbers of a fixed number of bytes, least significant byte first.
-/

namespace SleepySession

/-- The number that bytes denote, least significant byte first. -/
def leNat (bytes : List UInt8) : Nat :=
  beNat bytes.reverse

/-- The first `width` base-256 digits of a number, from the lowest. -/
def leBytes (width n : Nat) : List UInt8 :=
  (beBytes width n).reverse

/-- `u32::to_le_bytes`. -/
def u32Bytes (n : UInt32) : List UInt8 :=
  leBytes 4 n.toNat

/-- `u32::from_le_bytes`. -/
def u32OfBytes (bytes : List UInt8) : UInt32 :=
  UInt32.ofNat (leNat bytes)

@[simp] theorem length_leBytes (width n : Nat) : (leBytes width n).length = width := by
  simp [leBytes]

@[simp] theorem length_u32Bytes (n : UInt32) : (u32Bytes n).length = 4 :=
  length_leBytes 4 n.toNat

theorem leNat_leBytes {width n : Nat} (h : n < 256 ^ width) : leNat (leBytes width n) = n := by
  rw [leNat, leBytes, List.reverse_reverse, beNat_beBytes h]

/-- Bytes are the digits of the number they denote. -/
theorem beBytes_beNat (bytes : List UInt8) : beBytes bytes.length (beNat bytes) = bytes := by
  induction bytes using List.reverseRecOn with
  | nil => rfl
  | append_singleton bytes b ih =>
      have hb : b.toNat < 256 := b.toNat_lt
      have hdiv : (beNat bytes * 256 + b.toNat) / 256 = beNat bytes := by omega
      have hmod : (beNat bytes * 256 + b.toNat) % 256 = b.toNat := by omega
      rw [beNat_append_singleton, List.length_append, List.length_singleton, beBytes, hdiv, hmod,
        ih, UInt8.ofNat_toNat]

theorem leBytes_leNat (bytes : List UInt8) : leBytes bytes.length (leNat bytes) = bytes := by
  have h := beBytes_beNat bytes.reverse
  rw [List.length_reverse] at h
  rw [leBytes, leNat, h, List.reverse_reverse]

@[simp] theorem u32OfBytes_u32Bytes (n : UInt32) : u32OfBytes (u32Bytes n) = n := by
  have hn : n.toNat < 256 ^ 4 := n.toNat_lt
  rw [u32OfBytes, u32Bytes, leNat_leBytes hn, UInt32.ofNat_toNat]

theorem u32Bytes_u32OfBytes {bytes : List UInt8} (h : bytes.length = 4) :
    u32Bytes (u32OfBytes bytes) = bytes := by
  have hlt : leNat bytes < 2 ^ 32 := by
    have := beNat_lt bytes.reverse
    rw [List.length_reverse, h] at this
    exact this
  have hbytes := leBytes_leNat bytes
  rw [h] at hbytes
  rw [u32Bytes, u32OfBytes, UInt32.toNat_ofNat_of_lt' hlt, hbytes]

end SleepySession
