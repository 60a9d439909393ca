/-
Module: SolanaTransactions.Zstandard.PrefixCode
Purpose: Codes of unequal length that decode bytes.
Main exports: PrefixCode, PrefixCode.ofWeights?, PrefixCode.takeFrom, PrefixCode.decode?
-/
import SolanaTransactions.Zstandard.StateTable

namespace SolanaTransactions.Zstandard

/-!
A byte with weight `w` above zero has a code that covers `2 ^ (w - 1)` of the
`2 ^ width` words of the longest codes; a byte without weight has no code.  The codes
of small weights come first, and bytes of one weight come in ascending order.  The
weight of the last byte is not written, because all codes together cover all words.
-/

/-- A code for bytes: for each word of `width` bits the byte whose code it starts with, and the
length of that code. -/
structure PrefixCode where
  width : Nat
  entries : Array (UInt8 × Nat)
deriving DecidableEq, Inhabited, Repr

namespace PrefixCode

/-- The longest code that is allowed. -/
def maxWidth : Nat := 12

/-- How many words a weight covers. -/
def cover : Nat → Nat
  | 0 => 0
  | weight + 1 => Nat.pow 2 weight

/-- How many words several weights cover together. -/
def totalCover : List Nat → Nat
  | [] => 0
  | weight :: rest => cover weight + totalCover rest

/-- The words of all codes in order. -/
def words (width : Nat) (weights : List Nat) : List (UInt8 × Nat) :=
  (List.range width).flatMap fun lighter =>
    weights.zipIdx.flatMap fun (weight, byte) =>
      if weight = lighter + 1 then
        List.replicate (cover weight) (UInt8.ofNat byte, width - lighter)
      else []

/-- The code of the weights of all bytes but the last one that has a code. -/
def ofWeights? (weights : List Nat) : Option PrefixCode :=
  let covered := totalCover weights
  let width := Nat.log2 covered + 1
  let free := Nat.pow 2 width - covered
  let all := weights ++ [Nat.log2 free + 1]
  let lightest := (all.filter (· == 1)).length
  if covered = 0 ∨ weights.any (maxWidth < ·) ∨ maxWidth < width ∨ 255 < weights.length ∨
      free ≠ Nat.pow 2 (Nat.log2 free) ∨ lightest < 2 ∨ lightest % 2 = 1 then none
  else some ⟨width, (words width all).toArray⟩

/-- The weights that two coders spell in turn, with at most a number of turns.  When the bits do not
lead one of them to its next state, the other one spells the last weight. -/
def takeWeights (table : StateTable) : Nat → Nat → Nat → Bits → Option (List Nat)
  | 0, _, _, _ => none
  | turns + 1, state, other, bits =>
      let entry := table.entry state
      match Bits.takeHigh entry.width bits with
      | none => some [entry.symbol, (table.entry other).symbol]
      | some (number, rest) => do
          let later ← takeWeights table turns other (entry.base + number) rest
          some (entry.symbol :: later)

/-- The weights in a byte string of compressed weights. -/
def compressedWeights? (bytes : Bytes) : Option (List Nat) := do
  let (table, stream) ← StateTable.takeFrom 6 255 bytes
  let bits ← Bits.backward? stream
  let (first, afterFirst) ← Bits.takeHigh table.width bits
  let (second, rest) ← Bits.takeHigh table.width afterFirst
  takeWeights table 255 first second rest

/-- The weights in a byte string of half bytes. -/
def plainWeights (count : Nat) (bytes : Bytes) : List Nat :=
  (bytes.flatMap fun byte => [byte.toNat / 16, byte.toNat % 16]).take count

/-- The code that is described at the front of a byte string, and the bytes after it. -/
def takeFrom : Bytes → Option (PrefixCode × Bytes)
  | [] => none
  | mark :: rest =>
      let count := mark.toNat - 127
      let length := if mark < 128 then mark.toNat else (count + 1) / 2
      if rest.length < length then none
      else do
        let described := rest.take length
        let weights ←
          if mark < 128 then compressedWeights? described else some (plainWeights count described)
        let code ← ofWeights? weights
        some (code, rest.drop length)

/-- Some bytes behind those that were decoded, last one first, and the rest of the stream. -/
def takeBytes (code : PrefixCode) (former : List UInt8) : Nat → Bits → Option (Bytes × Bits)
  | 0, bits => some (former, bits)
  | count + 1, bits =>
      let (byte, length) := code.entries.getD (Bits.peekHigh code.width bits) default
      match Bits.takeHigh length bits with
      | some (_, rest) => takeBytes code (byte :: former) count rest
      | none => none

/-- The bytes of a stream that holds some number of them and nothing else. -/
def decode? (code : PrefixCode) (count : Nat) (stream : Bytes) : Option Bytes := do
  let bits ← Bits.backward? stream
  let (bytes, rest) ← code.takeBytes [] count bits
  if rest.isEmpty then some bytes.reverse else none

end PrefixCode

end SolanaTransactions.Zstandard
