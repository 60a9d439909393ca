/-
Module: SolanaTransactions.Limits
Purpose: The limits of the network and the lengths of the wire format.
Main exports: maxTransactionSize, maxUniqueKeys, defaultMaxInstructions, Limits.named
-/

namespace SolanaTransactions

/-- The most bytes that a serialized transaction may have. -/
def maxTransactionSize : Int := 1232

/-- The most distinct accounts that a transaction may refer to. -/
def maxUniqueKeys : Int := 128

/-- The length of a signature. -/
def signatureLength : Int := 64

/-- The length of a key. -/
def keyLength : Int := 32

/-- The length of a blockhash. -/
def blockhashLength : Int := 32

/-- The length of a message header. -/
def headerLength : Int := 3

/-- The length of the version mark in front of a message. -/
def versionLength : Int := 1

/-- What a lookup table adds to a message: its key and the counts of its two index lists. -/
def lookupTableOverhead : Int := 34

/-- The largest count that is written in one byte. -/
def oneByteCountMax : Int := 127

/-- The first number that needs more than 32 bits. -/
def halfWordLimit : Nat := 4294967296

/-- The first number that needs more than 64 bits. -/
def wordLimit : Nat := 18446744073709551616

/-- How many instructions a transaction gets at most when the caller does not say. -/
def defaultMaxInstructions : Int := 64

/-- How often a transaction is sent again at most when the caller does not say. -/
def defaultMaxRetries : Int := 10

/-- How many addresses a lookup table holds at most. -/
def lookupTableCapacity : Nat := 256

/-- How many addresses one extending instruction carries at most. -/
def extensionChunk : Nat := 20

/-- The length of a slot in milliseconds. -/
def millisecondsPerSlot : Nat := 400

/-- How many seconds pass between two sends when the caller does not say. -/
def defaultRetrySeconds : Rat := 3

/-- The integer limits under the names they are published with. -/
def Limits.named : List (String × Int) :=
  [("MAX_TRANSACTION_SIZE", maxTransactionSize),
   ("MAX_UNIQUE_KEYS_COUNT", maxUniqueKeys),
   ("SIGNATURE_LENGTH", signatureLength),
   ("PUBKEY_LENGTH", keyLength),
   ("BLOCKHASH_LENGTH", blockhashLength),
   ("MESSAGE_HEADER_LENGTH", headerLength),
   ("VERSION_PREFIX_LENGTH", versionLength),
   ("LOOKUP_TABLE_OVERHEAD", lookupTableOverhead),
   ("COMPACT_U16_ONE_BYTE_MAX", oneByteCountMax),
   ("DEFAULT_MAX_INSTRUCTION_COUNT", defaultMaxInstructions),
   ("DEFAULT_MAX_RETRIES", defaultMaxRetries),
   ("LOOKUP_TABLE_MAX_ADDRESSES", lookupTableCapacity),
   ("LOOKUP_TABLE_EXTEND_CHUNK_SIZE", extensionChunk),
   ("MS_PER_SLOT", millisecondsPerSlot)]

end SolanaTransactions
