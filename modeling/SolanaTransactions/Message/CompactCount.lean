/-
Module: SolanaTransactions.Message.CompactCount
Purpose: The compact form of the counts in front of the lists of a message.
Main exports:
  CompactCount.encode, CompactCount.length_encode_small, CompactCount.length_encode_large
-/
import SolanaTransactions.Bytes

namespace SolanaTransactions.CompactCount

/-!
A count is written in groups of seven bits, lowest first; every byte but the
last has its high bit set.
-/

/-- The compact form of a count. -/
def encode (count : Nat) : Bytes :=
  if count < 128 then [UInt8.ofNat count]
  else UInt8.ofNat (count % 128 + 128) :: encode (count / 128)
termination_by count
decreasing_by omega

theorem length_encode_small {count : Nat} (small : count < 128) : (encode count).length = 1 := by
  rw [encode]
  simp [small]

theorem length_encode_large {count : Nat} (large : 128 ≤ count) (bounded : count < 16384) :
    (encode count).length = 2 := by
  rw [encode]
  simp [show ¬ count < 128 by omega, length_encode_small (show count / 128 < 128 by omega)]

end SolanaTransactions.CompactCount
