/-
Module: SolanaTransactions.Zstandard.Checksum
Purpose: The hash of 64 bits that guards the content of a frame.
Main exports: Checksum.ofBytes
-/
import SolanaTransactions.Bytes

namespace SolanaTransactions.Zstandard.Checksum

/-!
The hash reads stripes of four words into four lanes, which are merged at the end.
What is left after the last stripe is mixed in by words, half words and bytes.
-/

/-- A word of 64 bits. -/
abbrev Word := BitVec 64

/-- The five primes of the hash. -/
def prime1 : Word := BitVec.ofNat 64 11400714785074694791
/-- The second prime. -/
def prime2 : Word := BitVec.ofNat 64 14029467366897019727
/-- The third prime. -/
def prime3 : Word := BitVec.ofNat 64 1609587929392839161
/-- The fourth prime. -/
def prime4 : Word := BitVec.ofNat 64 9650029242287828579
/-- The fifth prime. -/
def prime5 : Word := BitVec.ofNat 64 2870177450012600261

/-- The word that bytes spell, lowest byte first. -/
def word (bytes : Bytes) : Word := BitVec.ofNat 64 (Bytes.ofLittleEndian bytes)

/-- A lane after one more word. -/
def mix (lane input : Word) : Word := (lane + input * prime2).rotateLeft 31 * prime1

/-- The four lanes. -/
structure Lanes where
  a : Word
  b : Word
  c : Word
  d : Word

/-- The lanes before the first stripe. -/
def Lanes.initial : Lanes := ⟨prime1 + prime2, prime2, 0, -prime1⟩

/-- The lanes after one more stripe. -/
def Lanes.mixStripe (lanes : Lanes) (stripe : Bytes) : Lanes :=
  ⟨mix lanes.a (word (stripe.take 8)), mix lanes.b (word ((stripe.drop 8).take 8)),
    mix lanes.c (word ((stripe.drop 16).take 8)), mix lanes.d (word ((stripe.drop 24).take 8))⟩

/-- Merge one lane into a hash. -/
def merge (hash lane : Word) : Word := (hash ^^^ mix 0 lane) * prime1 + prime4

/-- The hash of four lanes. -/
def Lanes.merged (lanes : Lanes) : Word :=
  let sum := lanes.a.rotateLeft 1 + lanes.b.rotateLeft 7 + lanes.c.rotateLeft 12 +
    lanes.d.rotateLeft 18
  [lanes.a, lanes.b, lanes.c, lanes.d].foldl merge sum

/-- The lanes after a number of stripes, and the bytes that are left. -/
def readStripes (lanes : Lanes) : Nat → Bytes → Lanes × Bytes
  | 0, bytes => (lanes, bytes)
  | stripes + 1, bytes => readStripes (lanes.mixStripe (bytes.take 32)) stripes (bytes.drop 32)

/-- Mix in the words of 64 bits that are left. -/
def mixWords (hash : Word) : Nat → Bytes → Word × Bytes
  | 0, bytes => (hash, bytes)
  | words + 1, bytes =>
      mixWords ((hash ^^^ mix 0 (word (bytes.take 8))).rotateLeft 27 * prime1 + prime4) words
        (bytes.drop 8)

/-- Mix in the half word that is left, if there is one. -/
def mixHalf (hash : Word) (bytes : Bytes) : Word × Bytes :=
  if bytes.length < 4 then (hash, bytes)
  else ((hash ^^^ word (bytes.take 4) * prime1).rotateLeft 23 * prime2 + prime3, bytes.drop 4)

/-- Mix in the last bytes. -/
def mixBytes (hash : Word) (bytes : Bytes) : Word :=
  bytes.foldl (fun hash byte => (hash ^^^ word [byte] * prime5).rotateLeft 11 * prime1) hash

/-- Let every bit of a hash depend on all others. -/
def avalanche (hash : Word) : Word :=
  let first := (hash ^^^ hash >>> 33) * prime2
  let second := (first ^^^ first >>> 29) * prime3
  second ^^^ second >>> 32

/-- The hash of a byte string. -/
def ofBytes (bytes : Bytes) : Word :=
  let stripes := bytes.length / 32
  let (lanes, rest) := readStripes Lanes.initial stripes bytes
  let start := (if stripes = 0 then prime5 else lanes.merged) + BitVec.ofNat 64 bytes.length
  let (afterWords, left) := mixWords start (rest.length / 8) rest
  let (afterHalf, last) := mixHalf afterWords left
  avalanche (mixBytes afterHalf last)

end SolanaTransactions.Zstandard.Checksum
