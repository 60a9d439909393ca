/-
Module: SolanaTransactions.Zstandard.Bits
Purpose: The bits of byte strings, read forward and backward.
Main exports: Bits, Bits.forward, Bits.backward?, Bits.takeLow, Bits.takeHigh
-/
import SolanaTransactions.Bytes

namespace SolanaTransactions.Zstandard

/-!
A compressed frame packs numbers into bits in two ways.  Read forward, bytes come in
order and the lowest bit of a number comes first.  Read backward, the last byte comes
first and so does the highest bit of a number; a set bit marks where the stream
begins, because its length need not be a number of bytes.
-/

/-- A stream of bits, the next one first. -/
abbrev Bits := List Bool

namespace Bits

/-- The bits of a byte, lowest first. -/
def ofByte (byte : UInt8) : Bits := (List.range 8).map fun place => byte.toNat.testBit place

/-- The bits of bytes that are read forward. -/
def forward (bytes : Bytes) : Bits := bytes.flatMap ofByte

/-- The bits of bytes that are read backward, after the mark in the last byte. -/
def backward? (bytes : Bytes) : Option Bits :=
  match bytes.getLast? with
  | none => none
  | some last =>
      if last = 0 then none else some (((forward bytes).reverse.dropWhile (!·)).drop 1)

/-- A number of some bits, lowest bit first, and the rest of the stream. -/
def takeLow : Nat → Bits → Option (Nat × Bits)
  | 0, bits => some (0, bits)
  | _ + 1, [] => none
  | width + 1, bit :: rest =>
      match takeLow width rest with
      | some (higher, after) => some (2 * higher + bit.toNat, after)
      | none => none

/-- A number of some bits, highest bit first, behind a number that was read, and the rest of the
stream. -/
def takeHighAfter (number : Nat) : Nat → Bits → Option (Nat × Bits)
  | 0, bits => some (number, bits)
  | _ + 1, [] => none
  | width + 1, bit :: rest => takeHighAfter (2 * number + bit.toNat) width rest

/-- A number of some bits, highest bit first, and the rest of the stream. -/
def takeHigh (width : Nat) (bits : Bits) : Option (Nat × Bits) := takeHighAfter 0 width bits

/-- The number of the next bits, highest bit first, behind a number that was read.  Behind the end
of the stream all bits are zero. -/
def peekHighAfter (number : Nat) : Nat → Bits → Nat
  | 0, _ => number
  | width + 1, [] => peekHighAfter (2 * number) width []
  | width + 1, bit :: rest => peekHighAfter (2 * number + bit.toNat) width rest

/-- The number of the next bits, highest bit first. -/
def peekHigh (width : Nat) (bits : Bits) : Nat := peekHighAfter 0 width bits

end Bits

end SolanaTransactions.Zstandard
