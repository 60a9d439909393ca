/-
Module: SolanaTransactions.Proofs.Text.Base64
Purpose: The base64 text of a byte string is read as that byte string.
Main exports: Base64.digitOf?_character, Base64.decodeChars?_encodeChars, Base64.decode?_encode
-/
import SolanaTransactions.Text.Base64

namespace SolanaTransactions.Base64

theorem digitOf?_character {digit : Nat} (small : digit < 64) :
    digitOf? (character digit) = some digit := by
  have every : ∀ place : Fin 64, digitOf? (character place) = some place.val := by decide +kernel
  exact every ⟨digit, small⟩

theorem character_ne_padding {digit : Nat} (small : digit < 64) : character digit ≠ '=' := by
  have every : ∀ place : Fin 64, character place ≠ '=' := by decide +kernel
  exact every ⟨digit, small⟩

theorem ofNat_eq {number : Nat} (byte : UInt8) (same : number = byte.toNat) :
    UInt8.ofNat number = byte := by
  rw [same, UInt8.ofNat_toNat]

theorem decodeChars?_encodeChars (bytes : Bytes) :
    decodeChars? (encodeChars bytes) = some bytes := by
  fun_induction encodeChars bytes with
  | case1 => rfl
  | case2 first a =>
      have low : a < 256 := first.toNat_lt
      rw [decodeChars?.eq_2, digitOf?_character (by omega), digitOf?_character (by omega)]
      simp only [Option.bind_eq_bind, Option.bind_some]
      rw [if_pos (by omega), ofNat_eq first (by omega)]
  | case3 first second a b =>
      have low : a < 256 := first.toNat_lt
      have middle : b < 256 := second.toNat_lt
      rw [decodeChars?.eq_3 _ _ _ (character_ne_padding (by omega)),
        digitOf?_character (by omega), digitOf?_character (by omega),
        digitOf?_character (by omega)]
      simp only [Option.bind_eq_bind, Option.bind_some]
      rw [if_pos (by omega), ofNat_eq first (by omega),
        ofNat_eq second (by omega)]
  | case4 first second third rest a b c ih =>
      have low : a < 256 := first.toNat_lt
      have middle : b < 256 := second.toNat_lt
      have high : c < 256 := third.toNat_lt
      have unpadded := character_ne_padding (show c % 64 < 64 by omega)
      rw [decodeChars?.eq_4 _ _ _ _ _ (fun _ padding _ => unpadded padding)
          (fun padding _ => unpadded padding),
        digitOf?_character (by omega), digitOf?_character (by omega),
        digitOf?_character (by omega), digitOf?_character (by omega), ih]
      simp only [Option.bind_eq_bind, Option.bind_some]
      rw [ofNat_eq first (by omega), ofNat_eq second (by omega),
        ofNat_eq third (by omega)]

theorem decode?_encode (bytes : Bytes) : decode? (encode bytes) = some bytes := by
  rw [decode?, encode, String.toList_ofList, decodeChars?_encodeChars]

end SolanaTransactions.Base64
