/-
Module: SolanaTransactions.SignatureScheme
Purpose: What a signature scheme offers and promises.
Main exports: Seed, SignatureScheme, SignatureScheme.Honest, Keypair
-/
import SolanaTransactions.Key

namespace SolanaTransactions

/-!
Signing and checking are used through this interface only.  What holds of
transactions holds for every scheme, or for every honest one where signatures
have to verify.
-/

/-- A secret of 32 bytes, read as one number. -/
structure Seed where
  bits : BitVec 256
deriving DecidableEq, Inhabited, Repr

/-- The seed whose bytes spell a number. -/
def Seed.ofNat (number : Nat) : Seed := ⟨BitVec.ofNat 256 number⟩

/-- The 32 bytes of a seed. -/
def Seed.toBytes (seed : Seed) : Bytes := Bytes.bigEndian 32 seed.bits.toNat

/-- A deterministic signature scheme. -/
structure SignatureScheme where
  /-- The key under which signatures of a seed verify. -/
  publicKey : Seed → Key
  /-- The signature of a seed over a message. -/
  sign : Seed → Bytes → Signature
  /-- Whether a signature over a message verifies under a key. -/
  verifies : Key → Bytes → Signature → Bool

/-- A scheme is honest when every signature verifies under its seed's key and none is blank. -/
structure SignatureScheme.Honest (scheme : SignatureScheme) : Prop where
  verifies_sign : ∀ seed message,
    scheme.verifies (scheme.publicKey seed) message (scheme.sign seed message) = true
  sign_ne_blank : ∀ seed message, scheme.sign seed message ≠ Signature.blank

/-- A seed together with the key that belongs to it. -/
structure Keypair where
  seed : Seed
  key : Key
deriving DecidableEq, Inhabited, Repr

namespace Keypair

/-- The keypair of a seed. -/
def ofSeed (scheme : SignatureScheme) (seed : Seed) : Keypair := ⟨seed, scheme.publicKey seed⟩

/-- The seed and the key of a keypair, 32 bytes each. -/
def toBytes (keypair : Keypair) : Bytes := keypair.seed.toBytes ++ keypair.key.toBytes

/-- The keypair that 64 bytes form, when their second half is the key of the first. -/
def ofBytes? (scheme : SignatureScheme) (bytes : Bytes) : Option Keypair :=
  let keypair := ofSeed scheme (Seed.ofNat (Bytes.ofBigEndian (bytes.take 32)))
  if bytes.length = 64 ∧ keypair.key.toBytes = bytes.drop 32 then some keypair else none

end Keypair

end SolanaTransactions
