/-
Module: SolanaTransactions.Zstandard.Frame
Purpose: Frames of compressed bytes.
Main exports: FrameHeader, FrameHeader.takeFrom, Zstandard.decompress?
-/
import SolanaTransactions.Zstandard.Block
import SolanaTransactions.Zstandard.Checksum

namespace SolanaTransactions.Zstandard

/-!
Compressed bytes are a sequence of frames.  A frame begins with a mark and a header,
goes on with blocks up to the last one, and may end with a checksum.  Other frames
are there to be skipped.  Frames that need a dictionary cannot be read.
-/

/-- What the header of a frame says. -/
structure FrameHeader where
  /-- How far back copies may reach. -/
  window : Nat
  /-- How many bytes the frame decodes to, when it says so. -/
  contentLength : Option Nat
  hasChecksum : Bool
deriving DecidableEq, Inhabited, Repr

namespace FrameHeader

/-- The widest window that is accepted. -/
def maxWindow : Nat := 134217729

/-- The window that a byte stands for. -/
def windowOf (mark : Nat) : Nat :=
  let base := Nat.pow 2 (10 + mark / 8)
  base + base / 8 * (mark % 8)

/-- The window that a frame of several segments gives, and the bytes after it. -/
def takeWindow (isSingle : Bool) (bytes : Bytes) : Option (Option Nat × Bytes) :=
  if isSingle then some (none, bytes)
  else (FrameState.takeWord 1 bytes).map fun (mark, rest) => (some (windowOf mark), rest)

/-- The header of a frame after its mark, and the bytes after it. -/
def takeFrom (bytes : Bytes) : Option (FrameHeader × Bytes) := do
  let (flags, afterFlags) ← FrameState.takeWord 1 bytes
  let isSingle := flags / 32 % 2 = 1
  let (window, afterWindow) ← takeWindow isSingle afterFlags
  let dictionaryLength := [0, 1, 2, 4].getD (flags % 4) 0
  let (dictionary, afterDictionary) ← FrameState.takeWord dictionaryLength afterWindow
  let sizeLength := [if isSingle then 1 else 0, 2, 4, 8].getD (flags / 64) 0
  let (size, rest) ← FrameState.takeWord sizeLength afterDictionary
  let length := if sizeLength = 2 then size + 256 else size
  let contentLength := if sizeLength = 0 then none else some length
  let header : FrameHeader := ⟨window.getD length, contentLength, flags / 4 % 2 = 1⟩
  if flags / 8 % 2 = 1 ∨ dictionary ≠ 0 ∨ maxWindow < header.window then none
  else some (header, rest)

/-- The most bytes that a block of the frame may decode to. -/
def blockLimit (header : FrameHeader) : Nat :=
  if header.window < FrameState.blockLimit then header.window else FrameState.blockLimit

end FrameHeader

namespace FrameState

/-- The state after one more block, whether this was the last one, and the bytes after it. -/
def takeBlock (limit : Nat) (state : FrameState) (bytes : Bytes) :
    Option (FrameState × Bool × Bytes) := do
  let (header, rest) ← takeWord 3 bytes
  let isLast := header % 2 = 1
  let length := header / 8
  if limit < length then none
  else
    match header / 2 % 4 with
    | 0 =>
        let (content, after) ← takePart length rest
        some ({ state with output := append state.output content }, isLast, after)
    | 1 =>
        let (content, after) ← takePart 1 rest
        let run := content.flatMap (List.replicate length)
        some ({ state with output := append state.output run }, isLast, after)
    | 2 =>
        let (content, after) ← takePart length rest
        let next ← state.appendCompressed? limit content
        some (next, isLast, after)
    | _ => none

/-- The state after the last block, of which there are at most a number, and the bytes after it. -/
def takeBlocks (limit : Nat) : Nat → FrameState → Bytes → Option (FrameState × Bytes)
  | 0, _, _ => none
  | blocks + 1, state, bytes =>
      match takeBlock limit state bytes with
      | none => none
      | some (next, true, rest) => some (next, rest)
      | some (next, false, rest) => takeBlocks limit blocks next rest

end FrameState

/-- The content of a frame after its mark, and the bytes after the frame. -/
def takeContent (bytes : Bytes) : Option (Bytes × Bytes) := do
  let (header, blocks) ← FrameHeader.takeFrom bytes
  let (state, rest) ←
    FrameState.takeBlocks header.blockLimit bytes.length FrameState.initial blocks
  let content := state.output.toList
  if header.contentLength.any (· != content.length) then none
  else if header.hasChecksum then
    let (checksum, after) ← FrameState.takeWord 4 rest
    if (Checksum.ofBytes content).toNat % 4294967296 = checksum then some (content, after)
    else none
  else some (content, rest)

/-- The mark of a frame with content. -/
def contentMark : Nat := 4247762216

/-- The first of the sixteen marks of frames that are skipped. -/
def skippedMark : Nat := 407710288

/-- The content of a frame, and the bytes after it. -/
def takeFrame (bytes : Bytes) : Option (Bytes × Bytes) := do
  let (mark, rest) ← FrameState.takeWord 4 bytes
  if mark = contentMark then takeContent rest
  else if mark / 16 * 16 = skippedMark then
    let (length, after) ← FrameState.takeWord 4 rest
    let (_, next) ← FrameState.takePart length after
    some ([], next)
  else none

/-- The contents of all frames in a byte string, of which there are at most a number. -/
def takeFrames : Nat → Bytes → Option Bytes
  | 0, _ => none
  | frames + 1, bytes => do
      let (content, rest) ← takeFrame bytes
      if rest.isEmpty then some content
      else
        let later ← takeFrames frames rest
        some (content ++ later)

/-- The bytes that were compressed.  There has to be a frame, and nothing may stand after the last
one. -/
def decompress? (bytes : Bytes) : Option Bytes := takeFrames bytes.length bytes

end SolanaTransactions.Zstandard
