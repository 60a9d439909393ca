/-
Module: SolanaTransactions.Crypto.Sha2
Purpose: The hash functions SHA-256 and SHA-512.
Main exports: Sha2.sha256, Sha2.sha512
-/
import SolanaTransactions.Bytes

namespace SolanaTransactions.Sha2

/-!
Both functions are one construction over words of different width.  A padded
message is cut into blocks of sixteen words; every block is stretched into one
word per round and mixed into eight chaining words.  The constants are leading
bits of the fractional parts of square and cube roots of the first primes, and
they are computed here from that description.
-/

/-- What distinguishes the two functions. -/
structure Variant where
  /-- The number of bits in a word. -/
  width : Nat
  rounds : Nat
  /-- The rotations that mix the first chaining word. -/
  mixFirst : Nat × Nat × Nat
  /-- The rotations that mix the fifth chaining word. -/
  mixFifth : Nat × Nat × Nat
  /-- Two rotations and a shift for the schedule word fifteen places back. -/
  stretchOld : Nat × Nat × Nat
  /-- Two rotations and a shift for the schedule word two places back. -/
  stretchNew : Nat × Nat × Nat

/-- The function with words of 32 bits. -/
def variant256 : Variant :=
  ⟨32, 64, (2, 13, 22), (6, 11, 25), (7, 18, 3), (17, 19, 10)⟩

/-- The function with words of 64 bits. -/
def variant512 : Variant :=
  ⟨64, 80, (28, 34, 39), (14, 18, 41), (1, 8, 7), (19, 61, 6)⟩

/-- Whether a number above one has no divisor between two and itself. -/
def isPrime (number : Nat) : Bool :=
  (List.range number).all fun divisor => divisor < 2 || number % divisor != 0

/-- The first primes, up to the eightieth. -/
def primes : List Nat := (List.range 410).filter fun number => 2 ≤ number && isPrime number

/-- The largest root whose power does not exceed a number, found bit by bit from the highest. -/
def root (power number : Nat) : Nat → Nat → Nat
  | 0, found => found
  | bits + 1, found =>
      let larger := found + Nat.pow 2 bits
      root power number bits (if Nat.pow larger power ≤ number then larger else found)

/-- The leading fractional bits of a root of a prime. -/
def fraction (width power prime : Nat) : BitVec width :=
  BitVec.ofNat width (root power (prime * Nat.pow 2 (width * power)) (width + 5) 0)

/-- The sum of three rotations, bit by bit. -/
def rotations {width : Nat} (amounts : Nat × Nat × Nat) (word : BitVec width) : BitVec width :=
  word.rotateRight amounts.1 ^^^ word.rotateRight amounts.2.1 ^^^ word.rotateRight amounts.2.2

/-- The sum of two rotations and a shift, bit by bit. -/
def stretch {width : Nat} (amounts : Nat × Nat × Nat) (word : BitVec width) : BitVec width :=
  word.rotateRight amounts.1 ^^^ word.rotateRight amounts.2.1 ^^^ word >>> amounts.2.2

/-- The words of a block, stretched by a number of further words. -/
def Variant.schedule (variant : Variant) :
    Nat → Array (BitVec variant.width) → Array (BitVec variant.width)
  | 0, words => words
  | more + 1, words =>
      let back (distance : Nat) : BitVec variant.width := words.getD (words.size - distance) 0
      variant.schedule more (words.push
        (stretch variant.stretchNew (back 2) + back 7 + stretch variant.stretchOld (back 15) +
          back 16))

/-- One round, with a round constant and a schedule word. -/
def Variant.round (variant : Variant) (state : List (BitVec variant.width))
    (input : BitVec variant.width × BitVec variant.width) : List (BitVec variant.width) :=
  match state with
  | [a, b, c, d, e, f, g, h] =>
      let choice := (e &&& f) ^^^ (~~~e &&& g)
      let majority := (a &&& b) ^^^ (a &&& c) ^^^ (b &&& c)
      let carried := h + rotations variant.mixFifth e + choice + input.1 + input.2
      [carried + rotations variant.mixFirst a + majority, a, b, c, d + carried, e, f, g]
  | other => other

/-- The chaining words after one more block. -/
def Variant.compress (variant : Variant) (constants : Array (BitVec variant.width))
    (state : List (BitVec variant.width)) (block : Array (BitVec variant.width)) :
    List (BitVec variant.width) :=
  let words := variant.schedule (variant.rounds - 16) block
  let mixed := (constants.zip words).foldl variant.round state
  List.zipWith (· + ·) state mixed

/-- A message with a one bit, zeros and its length in bits behind it, filling whole blocks. -/
def Variant.pad (variant : Variant) (message : Bytes) : Bytes :=
  let wordBytes := variant.width / 8
  let blockBytes := 16 * wordBytes
  let used := message.length + 1 + 2 * wordBytes
  let zeros := (blockBytes - used % blockBytes) % blockBytes
  message ++ 128 :: List.replicate zeros 0 ++
    Bytes.bigEndian (2 * wordBytes) (8 * message.length)

/-- The words that a byte string spells, highest byte first. -/
def Variant.words (variant : Variant) (fuel : Nat) (bytes : Bytes) : List (BitVec variant.width) :=
  match fuel with
  | 0 => []
  | fuel + 1 =>
      if bytes.isEmpty then []
      else
        BitVec.ofNat variant.width (Bytes.ofBigEndian (bytes.take (variant.width / 8))) ::
          variant.words fuel (bytes.drop (variant.width / 8))

/-- The chaining words after all blocks of a list of words. -/
def Variant.compressAll (variant : Variant) (constants : Array (BitVec variant.width)) :
    Nat → List (BitVec variant.width) → List (BitVec variant.width) →
      List (BitVec variant.width)
  | 0, state, _ => state
  | blocks + 1, state, words =>
      variant.compressAll constants blocks
        (variant.compress constants state (words.take 16).toArray) (words.drop 16)

/-- What a function needs before it reads a message: its first chaining words and one constant for
every round. -/
structure Tables (variant : Variant) where
  initial : List (BitVec variant.width)
  constants : Array (BitVec variant.width)

/-- The tables of a function. -/
def Variant.tables (variant : Variant) : Tables variant :=
  ⟨(primes.take 8).map (fraction variant.width 2),
    ((primes.take variant.rounds).map (fraction variant.width 3)).toArray⟩

/-- The hash of a message. -/
def Tables.hash {variant : Variant} (tables : Tables variant) (message : Bytes) : Bytes :=
  let padded := variant.pad message
  let words := variant.words padded.length padded
  (variant.compressAll tables.constants (words.length / 16) tables.initial words).flatMap
    fun word => Bytes.bigEndian (variant.width / 8) word.toNat

/-- The tables of SHA-256. -/
def tables256 : Tables variant256 := variant256.tables

/-- The tables of SHA-512. -/
def tables512 : Tables variant512 := variant512.tables

/-- The 32 bytes of the SHA-256 hash of a message. -/
def sha256 (message : Bytes) : Bytes := tables256.hash message

/-- The 64 bytes of the SHA-512 hash of a message. -/
def sha512 (message : Bytes) : Bytes := tables512.hash message

end SolanaTransactions.Sha2
