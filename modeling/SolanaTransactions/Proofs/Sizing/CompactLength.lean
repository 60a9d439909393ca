/-
Module: SolanaTransactions.Proofs.Sizing.CompactLength
Purpose: The length that the estimate assumes for a count, and the length of its compact form.
Main exports:
  one_le_compactLength, compactLength_le_two, compactLength_le_length,
  compactLength_eq_length_iff
-/
import SolanaTransactions.Message.CompactCount
import SolanaTransactions.Sizing.TableSearch

namespace SolanaTransactions

open CompactCount

theorem one_le_compactLength (count : Int) : 1 ≤ compactLength count := by
  unfold compactLength
  split <;> omega

theorem compactLength_le_two (count : Int) : compactLength count ≤ 2 := by
  unfold compactLength
  split <;> omega

/-- A count beyond 14 bits takes three bytes at least. -/
theorem three_le_length_encode {count : Nat} (huge : 16384 ≤ count) :
    3 ≤ (encode count).length := by
  have rest : 128 ≤ count / 128 := by omega
  rw [encode, if_neg (by omega), encode, if_neg (by omega), encode]
  split <;> simp

/-- The assumed length of a count is never more than its real length. -/
theorem compactLength_le_length (count : Nat) :
    compactLength count ≤ ((encode count).length : Int) := by
  rcases Nat.lt_or_ge count 128 with small | large
  · rw [length_encode_small small, compactLength, if_neg (by simp only [oneByteCountMax]; omega)]
    exact Int.le_refl 1
  · apply Int.le_trans (compactLength_le_two count)
    rcases Nat.lt_or_ge count 16384 with bounded | huge
    · rw [length_encode_large large bounded]
      exact Int.le_refl 2
    · have long := three_le_length_encode huge
      omega

/-- The assumed length of a count is its real length up to 14 bits. -/
theorem compactLength_eq_length_iff (count : Nat) :
    compactLength count = ((encode count).length : Int) ↔ count ≤ 16383 := by
  rcases Nat.lt_or_ge count 128 with small | large
  · rw [length_encode_small small, compactLength, if_neg (by simp only [oneByteCountMax]; omega)]
    exact iff_of_true rfl (by omega)
  · rw [compactLength, if_pos (by simp only [oneByteCountMax]; omega)]
    rcases Nat.lt_or_ge count 16384 with bounded | huge
    · rw [length_encode_large large bounded]
      exact iff_of_true rfl (by omega)
    · have long := three_le_length_encode huge
      exact iff_of_false (by omega) (by omega)

end SolanaTransactions
