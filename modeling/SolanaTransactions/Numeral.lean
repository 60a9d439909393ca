/-
Module: SolanaTransactions.Numeral
Purpose: Positional numerals over an arbitrary base, without leading zeros.
Main exports: Numeral.digits, Numeral.value, Numeral.value_digits, Numeral.digit_lt
-/

namespace SolanaTransactions.Numeral

/-!
A numeral is a list of digits, lowest first.  The numeral of zero is empty, so
every number has exactly one numeral and a base conversion is one writing after
one reading.
-/

/-- The digits of a number, lowest first and without zeros at the high end. -/
def digits (base number : Nat) : List Nat :=
  if number = 0 ∨ base < 2 then []
  else number % base :: digits base (number / base)
termination_by number
decreasing_by
  exact Nat.div_lt_self (by omega) (by omega)

/-- The number that a list of digits spells, lowest first. -/
def value (base : Nat) : List Nat → Nat
  | [] => 0
  | digit :: rest => digit + base * value base rest

theorem digits_zero (base : Nat) : digits base 0 = [] := by
  rw [digits]
  simp

theorem digits_of_pos {base number : Nat} (wide : 2 ≤ base) (positive : 0 < number) :
    digits base number = number % base :: digits base (number / base) := by
  rw [digits]
  simp
  omega

/-- Reading undoes writing in every base that has at least two digits. -/
theorem value_digits {base : Nat} (wide : 2 ≤ base) (number : Nat) :
    value base (digits base number) = number := by
  induction number using Nat.strongRecOn with
  | ind number ih =>
      rcases Nat.eq_zero_or_pos number with rfl | positive
      · simp [digits_zero, value]
      · rw [digits_of_pos wide positive, value,
          ih (number / base) (Nat.div_lt_self positive (by omega))]
        exact Nat.mod_add_div number base

/-- Every digit is smaller than the base. -/
theorem digit_lt {base number digit : Nat} (wide : 2 ≤ base)
    (member : digit ∈ digits base number) : digit < base := by
  induction number using Nat.strongRecOn with
  | ind number ih =>
      rcases Nat.eq_zero_or_pos number with rfl | positive
      · simp [digits_zero] at member
      · rw [digits_of_pos wide positive] at member
        rcases List.mem_cons.1 member with rfl | later
        · exact Nat.mod_lt _ (by omega)
        · exact ih _ (Nat.div_lt_self positive (by omega)) later

end SolanaTransactions.Numeral
