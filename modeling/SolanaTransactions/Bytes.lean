/-
Module: SolanaTransactions.Bytes
Purpose: Byte strings and the fixed-width numbers written in them.
Main exports:
  Bytes, littleEndian, bigEndian, ofLittleEndian, ofBigEndian,
  length_littleEndian, ofLittleEndian_littleEndian, littleEndian_ofLittleEndian
-/

namespace SolanaTransactions

/-- A byte string, first byte first. -/
abbrev Bytes := List UInt8

namespace Bytes

/-!
Every number on the wire has a fixed width.  The little-endian writer recurses
on the width, so its length law is immediate, and the big-endian forms
reverse its bytes.
-/

/-- The `width` lowest bytes of a number, lowest first. -/
def littleEndian : Nat → Nat → Bytes
  | 0, _ => []
  | width + 1, number => UInt8.ofNat (number % 256) :: littleEndian width (number / 256)

/-- The number that a byte string spells, lowest byte first. -/
def ofLittleEndian : Bytes → Nat
  | [] => 0
  | byte :: rest => byte.toNat + 256 * ofLittleEndian rest

/-- The `width` lowest bytes of a number, highest first. -/
def bigEndian (width number : Nat) : Bytes := (littleEndian width number).reverse

/-- The number that a byte string spells, highest byte first. -/
def ofBigEndian (bytes : Bytes) : Nat := ofLittleEndian bytes.reverse

/-- How many byte strings of a width there are. -/
def capacity : Nat → Nat
  | 0 => 1
  | width + 1 => 256 * capacity width

@[simp] theorem length_littleEndian (width number : Nat) :
    (littleEndian width number).length = width := by
  induction width generalizing number with
  | zero => rfl
  | succ width ih => simp [littleEndian, ih]

@[simp] theorem length_bigEndian (width number : Nat) :
    (bigEndian width number).length = width := by
  simp [bigEndian]

theorem ofLittleEndian_lt (bytes : Bytes) : ofLittleEndian bytes < capacity bytes.length := by
  induction bytes with
  | nil => simp [ofLittleEndian, capacity]
  | cons byte rest ih =>
      have small : byte.toNat < 256 := byte.toNat_lt
      simp only [ofLittleEndian, List.length_cons, capacity]
      omega

theorem ofLittleEndian_littleEndian (width number : Nat) :
    ofLittleEndian (littleEndian width number) = number % capacity width := by
  induction width generalizing number with
  | zero => simp [littleEndian, ofLittleEndian, capacity, Nat.mod_one]
  | succ width ih =>
      have byte : (UInt8.ofNat (number % 256)).toNat = number % 256 := by
        simp
      rw [littleEndian, ofLittleEndian, ih, byte, capacity, Nat.mod_mul]

theorem littleEndian_ofLittleEndian (bytes : Bytes) :
    littleEndian bytes.length (ofLittleEndian bytes) = bytes := by
  induction bytes with
  | nil => rfl
  | cons byte rest ih =>
      have small : byte.toNat < 256 := byte.toNat_lt
      have low : (byte.toNat + 256 * ofLittleEndian rest) % 256 = byte.toNat := by omega
      have high : (byte.toNat + 256 * ofLittleEndian rest) / 256 = ofLittleEndian rest := by omega
      simp only [List.length_cons, littleEndian, ofLittleEndian, low, high, ih, UInt8.ofNat_toNat]

theorem ofBigEndian_bigEndian (width number : Nat) :
    ofBigEndian (bigEndian width number) = number % capacity width := by
  simp [ofBigEndian, bigEndian, ofLittleEndian_littleEndian]

theorem bigEndian_ofBigEndian (bytes : Bytes) :
    bigEndian bytes.length (ofBigEndian bytes) = bytes := by
  have reversed := littleEndian_ofLittleEndian bytes.reverse
  simp only [List.length_reverse] at reversed
  simp [ofBigEndian, bigEndian, reversed]

theorem ofBigEndian_lt (bytes : Bytes) : ofBigEndian bytes < capacity bytes.length := by
  have bound := ofLittleEndian_lt bytes.reverse
  simpa [ofBigEndian] using bound

end Bytes

end SolanaTransactions
