/-
Module: SolanaTransactions.Key
Purpose: The fixed-width byte strings of the chain: keys, signatures and blockhashes.
Main exports: Key, Signature, Blockhash, Key.toBytes, Key.ofBytes?, Key.text
-/
import SolanaTransactions.Text.Base58

namespace SolanaTransactions

/-!
A key is 32 bytes.  It is held as the number that these bytes spell, highest
byte first: the order of the bytes is then the order of the numbers, and keys
compare in one step.  Signatures and blockhashes are held in the same way.
-/

/-- An account key: 32 bytes, read as one number. -/
structure Key where
  bits : BitVec 256
deriving DecidableEq, Inhabited, Repr

/-- A transaction signature: 64 bytes, read as one number. -/
structure Signature where
  bits : BitVec 512
deriving DecidableEq, Inhabited, Repr

/-- A blockhash: 32 bytes, read as one number. -/
structure Blockhash where
  bits : BitVec 256
deriving DecidableEq, Inhabited, Repr

namespace Key

/-- The key whose bytes spell a number. -/
def ofNat (number : Nat) : Key := ⟨BitVec.ofNat 256 number⟩

/-- The number that the bytes of a key spell. -/
def toNat (key : Key) : Nat := key.bits.toNat

instance : LT Key := ⟨fun left right => left.toNat < right.toNat⟩

instance : DecidableLT Key := fun left right =>
  inferInstanceAs (Decidable (left.toNat < right.toNat))

/-- The 32 bytes of a key. -/
def toBytes (key : Key) : Bytes := Bytes.bigEndian 32 key.toNat

/-- The key that 32 bytes form. -/
def ofBytes (bytes : Bytes) : Key := ofNat (Bytes.ofBigEndian bytes)

/-- The key that a byte string forms, when it has 32 bytes. -/
def ofBytes? (bytes : Bytes) : Option Key :=
  if bytes.length = 32 then some (ofBytes bytes) else none

/-- The base58 text of a key. -/
def text (key : Key) : String := Base58.encode key.toBytes

/-- The key that a base58 text spells. -/
def ofText? (text : String) : Option Key := Base58.decode? text >>= ofBytes?

theorem ext_toNat {left right : Key} (same : left.toNat = right.toNat) : left = right := by
  cases left
  cases right
  simpa [toNat] using BitVec.eq_of_toNat_eq same

@[simp] theorem length_toBytes (key : Key) : key.toBytes.length = 32 := by
  simp [toBytes]

theorem toNat_lt (key : Key) : key.toNat < Bytes.capacity 32 :=
  Nat.lt_of_lt_of_le key.bits.isLt (by decide)

/-- A key is the key that its bytes form. -/
theorem ofBytes_toBytes (key : Key) : ofBytes key.toBytes = key := by
  apply ext_toNat
  have whole : key.toNat % Bytes.capacity 32 = key.toNat := Nat.mod_eq_of_lt key.toNat_lt
  simp only [ofBytes, ofNat, toBytes, Bytes.ofBigEndian_bigEndian, whole]
  simp [toNat]

/-- The bytes of a key that was read are those that it was read from. -/
theorem toBytes_ofBytes {bytes : Bytes} (whole : bytes.length = 32) :
    (ofBytes bytes).toBytes = bytes := by
  have small : Bytes.ofBigEndian bytes < Bytes.capacity 32 := whole ▸ Bytes.ofBigEndian_lt bytes
  have spelled : (ofBytes bytes).toNat = Bytes.ofBigEndian bytes := by
    rw [ofBytes, ofNat, toNat, BitVec.toNat_ofNat]
    exact Nat.mod_eq_of_lt small
  rw [toBytes, spelled, ← whole, Bytes.bigEndian_ofBigEndian]

end Key

namespace Signature

/-- The signature whose bytes spell a number. -/
def ofNat (number : Nat) : Signature := ⟨BitVec.ofNat 512 number⟩

/-- The signature that stands in a slot nobody has signed: 64 zero bytes. -/
def blank : Signature := ofNat 0

/-- The 64 bytes of a signature. -/
def toBytes (signature : Signature) : Bytes := Bytes.bigEndian 64 signature.bits.toNat

/-- The signature that 64 bytes form. -/
def ofBytes (bytes : Bytes) : Signature := ofNat (Bytes.ofBigEndian bytes)

/-- The signature that a byte string forms, when it has 64 bytes. -/
def ofBytes? (bytes : Bytes) : Option Signature :=
  if bytes.length = 64 then some (ofBytes bytes) else none

/-- The base58 text of a signature. -/
def text (signature : Signature) : String := Base58.encode signature.toBytes

@[simp] theorem length_toBytes (signature : Signature) : signature.toBytes.length = 64 := by
  simp [toBytes]

end Signature

namespace Blockhash

/-- The blockhash whose bytes spell a number. -/
def ofNat (number : Nat) : Blockhash := ⟨BitVec.ofNat 256 number⟩

/-- The blockhash of no block: 32 zero bytes. -/
def zero : Blockhash := ofNat 0

/-- The 32 bytes of a blockhash. -/
def toBytes (blockhash : Blockhash) : Bytes := Bytes.bigEndian 32 blockhash.bits.toNat

/-- The blockhash that 32 bytes form. -/
def ofBytes (bytes : Bytes) : Blockhash := ofNat (Bytes.ofBigEndian bytes)

/-- The base58 text of a blockhash. -/
def text (blockhash : Blockhash) : String := Base58.encode blockhash.toBytes

@[simp] theorem length_toBytes (blockhash : Blockhash) : blockhash.toBytes.length = 32 := by
  simp [toBytes]

end Blockhash

end SolanaTransactions
