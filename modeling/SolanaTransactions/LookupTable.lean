/-
Module: SolanaTransactions.LookupTable
Purpose: Address lookup tables and their account data.
Main exports: LookupTable, LookupTable.decode, LookupTable.headerSize
-/
import SolanaTransactions.Key

namespace SolanaTransactions

/-- A table on the chain through which a message refers to accounts by a one-byte index. -/
structure LookupTable where
  key : Key
  addresses : List Key
deriving DecidableEq, Inhabited, Repr

namespace LookupTable

/-- The length of the header in front of the addresses in a table's account data. -/
def headerSize : Nat := 56

/-- The complete keys that a byte string starts with; a rest shorter than a key is left out. -/
def decodeAddresses (data : Bytes) : List Key :=
  if data.length < 32 then []
  else Key.ofBytes (data.take 32) :: decodeAddresses (data.drop 32)
termination_by data.length
decreasing_by
  simp only [List.length_drop]
  omega

/-- The table that its account data holds. -/
def decode (key : Key) (data : Bytes) : LookupTable :=
  ⟨key, decodeAddresses (data.drop headerSize)⟩

end LookupTable

end SolanaTransactions
