/-
Module: SolanaTransactions.Zstandard.Copies
Purpose: The copies that a block makes of what was decoded before.
Main exports: Copy, CopyCoder, CopyTables, CopyTables.decode?, Distances, Distances.resolve?
-/
import SolanaTransactions.Zstandard.StateTable

namespace SolanaTransactions.Zstandard

/-!
A block alternates between literals, which are bytes of its own, and copies of bytes
that are already there.  Each copy is told by three symbols: how many literals come
before it, how many bytes it copies and from how far back.  A symbol stands for a
range of numbers, and further bits say which of them is meant.  Small distances do
not count bytes: they mean one of the last three distances.
-/

/-- A copy as it is spelled. -/
structure Copy where
  /-- How many literals come before it. -/
  literals : Nat
  /-- How many bytes it copies. -/
  length : Nat
  /-- The number that spells the distance. -/
  distance : Nat
deriving DecidableEq, Inhabited, Repr

/-- How one of the three numbers of a copy is coded. -/
structure CopyCoder where
  /-- The widest table of states. -/
  maxWidth : Nat
  /-- The last symbol. -/
  maxSymbol : Nat
  /-- The table that needs no description. -/
  usual : StateTable
  /-- The least number that a symbol stands for, and how many bits are added to it. -/
  range : Nat → Nat × Nat

namespace CopyCoder

/-- A table of ranges, of which each starts where the one before ends, from a number on: each of the
widths says how many bits the numbers of a range differ in. -/
def ranges (start : Nat) : List Nat → List (Nat × Nat)
  | [] => []
  | width :: rest => (start, width) :: ranges (start + Nat.pow 2 width) rest

/-- Look up a range. -/
def lookUp (table : List (Nat × Nat)) (symbol : Nat) : Nat × Nat := table.getD symbol (0, 0)

/-- The ranges of the numbers of literals. -/
def literalRanges : List (Nat × Nat) :=
  ranges 0 (List.replicate 16 0 ++
    [1, 1, 1, 1, 2, 2, 3, 3, 4, 6, 7, 8, 9, 10, 11, 12, 13, 14, 15, 16])

/-- The ranges of the lengths of copies. -/
def lengthRanges : List (Nat × Nat) :=
  ranges 3 (List.replicate 32 0 ++
    [1, 1, 1, 1, 2, 2, 3, 3, 4, 4, 5, 7, 8, 9, 10, 11, 12, 13, 14, 15, 16])

/-- How the number of literals is coded. -/
def literals : CopyCoder :=
  { maxWidth := 9
    maxSymbol := 35
    usual := StateTable.ofShares 6
      ([4, 3, 2, 2, 2, 2, 2, 2, 2, 2, 2, 2, 2, 1, 1, 1, 2, 2, 2, 2, 2, 2, 2, 2, 2, 3, 2, 1, 1, 1, 1,
        1] ++ List.replicate 4 StateTable.rare)
    range := lookUp literalRanges }

/-- How the length of a copy is coded. -/
def length : CopyCoder :=
  { maxWidth := 9
    maxSymbol := 52
    usual := StateTable.ofShares 6
      ([1, 4, 3, 2, 2, 2, 2, 2, 2] ++ List.replicate 37 1 ++ List.replicate 7 StateTable.rare)
    range := lookUp lengthRanges }

/-- How the distance is coded. -/
def distance : CopyCoder :=
  { maxWidth := 8
    maxSymbol := 31
    usual := StateTable.ofShares 5
      ([1, 1, 1, 1, 1, 1, 2, 2, 2] ++ List.replicate 15 1 ++ List.replicate 5 StateTable.rare)
    range := fun symbol => (Nat.pow 2 symbol, symbol) }

/-- The table that a block decodes with, and the bytes after its description.  The mode says whether
it is the usual one, one with a single symbol, one that is described or the former one. -/
def takeTable (coder : CopyCoder) (former : Option StateTable) (mode : Nat) (bytes : Bytes) :
    Option (StateTable × Bytes) :=
  match mode with
  | 0 => some (coder.usual, bytes)
  | 1 =>
      match bytes with
      | symbol :: rest =>
          if symbol.toNat ≤ coder.maxSymbol then some (StateTable.single symbol.toNat, rest)
          else none
      | [] => none
  | 2 => StateTable.takeFrom coder.maxWidth coder.maxSymbol bytes
  | _ => former.map fun table => (table, bytes)

/-- The number that a symbol and the bits behind it stand for. -/
def takeNumber (coder : CopyCoder) (symbol : Nat) (bits : Bits) : Option (Nat × Bits) := do
  let (least, width) := coder.range symbol
  let (excess, rest) ← Bits.takeHigh width bits
  some (least + excess, rest)

end CopyCoder

/-- The tables for the three numbers of a copy. -/
structure CopyTables where
  literals : StateTable
  length : StateTable
  distance : StateTable
deriving DecidableEq, Inhabited, Repr

/-- The states of three coders. -/
structure CopyStates where
  literals : Nat
  length : Nat
  distance : Nat
deriving DecidableEq, Inhabited, Repr

namespace CopyTables

/-- The tables that are described at the front of a byte string, and the bytes after them.  Two bits
of the first byte say where each table comes from. -/
def takeFrom (former : Option CopyTables) : Bytes → Option (CopyTables × Bytes)
  | [] => none
  | modes :: bytes =>
      let mode := modes.toNat
      if mode % 4 ≠ 0 then none
      else do
        let (literals, afterLiterals) ←
          CopyCoder.literals.takeTable (former.map (·.literals)) (mode / 64) bytes
        let (distance, afterDistance) ←
          CopyCoder.distance.takeTable (former.map (·.distance)) (mode / 16 % 4) afterLiterals
        let (length, rest) ←
          CopyCoder.length.takeTable (former.map (·.length)) (mode / 4 % 4) afterDistance
        some (⟨literals, length, distance⟩, rest)

/-- The state after another one. -/
def next (table : StateTable) (state : Nat) (bits : Bits) : Option (Nat × Bits) := do
  let entry := table.entry state
  let (number, rest) ← Bits.takeHigh entry.width bits
  some (entry.base + number, rest)

/-- The copy that states stand for. -/
def takeCopy (tables : CopyTables) (states : CopyStates) (bits : Bits) : Option (Copy × Bits) := do
  let (distance, afterDistance) ←
    CopyCoder.distance.takeNumber (tables.distance.entry states.distance).symbol bits
  let (length, afterLength) ←
    CopyCoder.length.takeNumber (tables.length.entry states.length).symbol afterDistance
  let (literals, rest) ←
    CopyCoder.literals.takeNumber (tables.literals.entry states.literals).symbol afterLength
  some (⟨literals, length, distance⟩, rest)

/-- The states after others. -/
def takeStates (tables : CopyTables) (states : CopyStates) (bits : Bits) :
    Option (CopyStates × Bits) := do
  let (literals, afterLiterals) ← next tables.literals states.literals bits
  let (length, afterLength) ← next tables.length states.length afterLiterals
  let (distance, rest) ← next tables.distance states.distance afterLength
  some (⟨literals, length, distance⟩, rest)

/-- Some copies behind those that were decoded, last one first, and the rest of the stream.  No
state follows on the last copy. -/
def takeMore (tables : CopyTables) (former : List Copy) :
    Nat → CopyStates → Bits → Option (List Copy × Bits)
  | 0, _, bits => some (former, bits)
  | count + 1, states, bits =>
      match tables.takeCopy states bits with
      | none => none
      | some (copy, rest) =>
          if count = 0 then some (copy :: former, rest)
          else
            match tables.takeStates states rest with
            | none => none
            | some (following, after) => takeMore tables (copy :: former) count following after

/-- The copies of a stream that holds some number of them and nothing else. -/
def decode? (tables : CopyTables) (count : Nat) (stream : Bytes) : Option (List Copy) := do
  let bits ← Bits.backward? stream
  let (literals, afterLiterals) ← Bits.takeHigh tables.literals.width bits
  let (distance, afterDistance) ← Bits.takeHigh tables.distance.width afterLiterals
  let (length, start) ← Bits.takeHigh tables.length.width afterDistance
  let (copies, rest) ← tables.takeMore [] count ⟨literals, length, distance⟩ start
  if rest.isEmpty then some copies.reverse else none

end CopyTables

/-- The last three distances, the latest one first. -/
structure Distances where
  first : Nat
  second : Nat
  third : Nat
deriving DecidableEq, Inhabited, Repr

namespace Distances

/-- The distances before the first copy. -/
def initial : Distances := ⟨1, 4, 8⟩

/-- The distance of a copy, and the last three distances after it.  The numbers up to three mean
former distances; without literals before the copy they mean the next ones, of which the last is
one less than the latest distance. -/
def resolve? (former : Distances) (copy : Copy) : Option (Nat × Distances) :=
  let choice := if copy.literals = 0 then copy.distance + 1 else copy.distance
  if 3 < copy.distance then
    some (copy.distance - 3, ⟨copy.distance - 3, former.first, former.second⟩)
  else
    match choice with
    | 1 => some (former.first, former)
    | 2 => some (former.second, ⟨former.second, former.first, former.third⟩)
    | 3 => some (former.third, ⟨former.third, former.first, former.second⟩)
    | _ =>
        let distance := former.first - 1
        if distance = 0 then none else some (distance, ⟨distance, former.first, former.second⟩)

end Distances

end SolanaTransactions.Zstandard
