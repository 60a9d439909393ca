/-
Module: SolanaTransactions.Zstandard.Block
Purpose: The compressed blocks of a frame.
Main exports: FrameState, FrameState.appendCompressed?
-/
import SolanaTransactions.Zstandard.Copies
import SolanaTransactions.Zstandard.PrefixCode

namespace SolanaTransactions.Zstandard

/-!
A compressed block holds its literals, then the copies that alternate with them.  A
block may use the codes of the blocks before it, and its copies reach back into them.
-/

/-- What the blocks of a frame leave to the blocks after them. -/
structure FrameState where
  /-- The bytes that were decoded. -/
  output : Array UInt8
  /-- The code of the last literals that had one. -/
  code : Option PrefixCode
  /-- The tables of the last copies. -/
  tables : Option CopyTables
  distances : Distances
deriving Inhabited, Repr

namespace FrameState

/-- The state before the first block. -/
def initial : FrameState := ⟨#[], none, none, Distances.initial⟩

/-- The most bytes that a block may have, whatever the frame says. -/
def blockLimit : Nat := 131072

/-- The front of a byte string as a number, lowest byte first, and the bytes after it. -/
def takeWord (length : Nat) (bytes : Bytes) : Option (Nat × Bytes) :=
  if bytes.length < length then none
  else some (Bytes.ofLittleEndian (bytes.take length), bytes.drop length)

/-- The front of a byte string, and the bytes after it. -/
def takePart (length : Nat) (bytes : Bytes) : Option (Bytes × Bytes) :=
  if bytes.length < length then none else some (bytes.take length, bytes.drop length)

/-- Literals that are not coded: themselves, or one byte that is repeated. -/
def takePlainLiterals (isRepeated : Bool) (bytes : Bytes) : Option (Bytes × Bytes) :=
  match bytes with
  | [] => none
  | mark :: _ => do
      let (headerLength, shift) :=
        match mark.toNat / 4 % 4 with
        | 1 => (2, 16)
        | 3 => (3, 16)
        | _ => (1, 8)
      let (header, rest) ← takeWord headerLength bytes
      let count := header / shift
      if blockLimit < count then none
      else if isRepeated then
        match rest with
        | byte :: after => some (List.replicate count byte, after)
        | [] => none
      else takePart count rest

/-- The bytes of four streams, of which the first three have the same number of bytes. -/
def decodeFour? (code : PrefixCode) (count : Nat) (bytes : Bytes) : Option Bytes := do
  let (first, afterFirst) ← takeWord 2 bytes
  let (second, afterSecond) ← takeWord 2 afterFirst
  let (third, streams) ← takeWord 2 afterSecond
  let (one, afterOne) ← takePart first streams
  let (two, afterTwo) ← takePart second afterOne
  let (three, four) ← takePart third afterTwo
  let share := (count + 3) / 4
  if count < 3 * share then none
  else
    let a ← code.decode? share one
    let b ← code.decode? share two
    let c ← code.decode? share three
    let d ← code.decode? (count - 3 * share) four
    some (a ++ b ++ c ++ d)

/-- Literals that are coded: the code in front of them, or the former one.  The code is the second
part of the answer. -/
def takeCodedLiterals (former : Option PrefixCode) (bytes : Bytes) :
    Option (Bytes × PrefixCode × Bytes) :=
  match bytes with
  | [] => none
  | mark :: _ => do
      let (headerLength, limit) :=
        match mark.toNat / 4 % 4 with
        | 0 => (3, 1024)
        | 1 => (3, 1024)
        | 2 => (4, 16384)
        | _ => (5, 262144)
      let (header, rest) ← takeWord headerLength bytes
      let count := header / 16 % limit
      let (coded, after) ← takePart (header / 16 / limit) rest
      let (code, streams) ←
        match former with
        | some code => some (code, coded)
        | none => PrefixCode.takeFrom coded
      let isSingle := mark.toNat / 4 % 4 = 0
      if blockLimit < count ∨ (¬ isSingle ∧ count < 6) then none
      else
        let literals ←
          if isSingle then code.decode? count streams else decodeFour? code count streams
        some (literals, code, after)

/-- The literals of a block, the code for the blocks after it, and the rest of the block. -/
def takeLiterals (former : Option PrefixCode) (bytes : Bytes) :
    Option (Bytes × Option PrefixCode × Bytes) :=
  match bytes with
  | [] => none
  | mark :: _ =>
      match mark.toNat % 4 with
      | 0 => (takePlainLiterals false bytes).map fun (literals, rest) => (literals, former, rest)
      | 1 => (takePlainLiterals true bytes).map fun (literals, rest) => (literals, former, rest)
      | 2 => (takeCodedLiterals none bytes).map fun (literals, code, rest) =>
          (literals, some code, rest)
      | _ =>
          match former with
          | none => none
          | some code => (takeCodedLiterals (some code) bytes).map fun (literals, code, rest) =>
              (literals, some code, rest)

/-- The number of copies in a block, and the bytes after it. -/
def takeCopyCount : Bytes → Option (Nat × Bytes)
  | [] => none
  | first :: rest =>
      if first < 128 then some (first.toNat, rest)
      else if first < 255 then
        match rest with
        | second :: after => some ((first.toNat - 128) * 256 + second.toNat, after)
        | [] => none
      else
        match takeWord 2 rest with
        | some (count, after) => some (count + 32512, after)
        | none => none

/-- The copies of a block, and the tables for the blocks after it. -/
def readCopies? (former : Option CopyTables) (bytes : Bytes) :
    Option (List Copy × Option CopyTables) := do
  let (count, rest) ← takeCopyCount bytes
  if count = 0 then
    if rest.isEmpty then some ([], former) else none
  else
    let (tables, stream) ← CopyTables.takeFrom former rest
    let copies ← tables.decode? count stream
    some (copies, some tables)

/-- Append bytes to the output. -/
def append (output : Array UInt8) (bytes : Bytes) : Array UInt8 :=
  bytes.foldl (fun all byte => all.push byte) output

/-- Append bytes from some distance back, one after the other: the copy may reach into itself. -/
def appendCopy (distance : Nat) : Nat → Array UInt8 → Array UInt8
  | 0, output => output
  | count + 1, output =>
      appendCopy distance count (output.push (output.getD (output.size - distance) 0))

/-- Append literals and copies in turn, and the literals that are left over at the end.  The output
may not grow beyond a size. -/
def alternate (limit : Nat) :
    List Copy → Bytes → Distances → Array UInt8 → Option (Array UInt8 × Distances)
  | [], literals, distances, output =>
      if limit < output.size + literals.length then none
      else some (append output literals, distances)
  | copy :: copies, literals, distances, output =>
      if literals.length < copy.literals ∨
          limit < output.size + copy.literals + copy.length then none
      else
        let before := append output (literals.take copy.literals)
        match distances.resolve? copy with
        | none => none
        | some (distance, following) =>
            if before.size < distance then none
            else
              alternate limit copies (literals.drop copy.literals) following
                (appendCopy distance copy.length before)

/-- The state after a compressed block that decodes to at most `most` bytes. -/
def appendCompressed? (state : FrameState) (most : Nat) (block : Bytes) : Option FrameState := do
  let (literals, code, rest) ← takeLiterals state.code block
  let (copies, tables) ← readCopies? state.tables rest
  let (output, distances) ←
    alternate (state.output.size + most) copies literals state.distances state.output
  some ⟨output, code, tables, distances⟩

end FrameState

end SolanaTransactions.Zstandard
