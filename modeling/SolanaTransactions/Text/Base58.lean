/-
Module: SolanaTransactions.Text.Base58
Purpose: The base58 text of a byte string and its reader.
Main exports: Base58.alphabet, Base58.encode, Base58.decode?
-/
import SolanaTransactions.Bytes
import SolanaTransactions.Numeral

namespace SolanaTransactions.Base58

/-!
Base58 reads a byte string as one number, highest byte first, and writes that
number with the 58 letters and digits that are hard to confuse.  A number loses
the zero bytes in front of it, so each of them is written as one `1`, the digit
of value zero, in front of the numeral.
-/

/-- The digits in ascending order of value. -/
def alphabet : List Char :=
  "123456789ABCDEFGHJKLMNPQRSTUVWXYZabcdefghijkmnopqrstuvwxyz".toList

/-- The character of a digit below 58. -/
def character (digit : Nat) : Char := alphabet.getD digit '1'

/-- The value of a character, when it is a base58 digit. -/
def digitOf? (character : Char) : Option Nat := alphabet.idxOf? character

/-- The base58 digits of a byte string, as characters. -/
def encodeChars (bytes : Bytes) : List Char :=
  List.replicate (bytes.takeWhile (· == 0)).length '1' ++
    ((Numeral.digits 58 (Bytes.ofBigEndian bytes)).map character).reverse

/-- The base58 text of a byte string. -/
def encode (bytes : Bytes) : String := String.ofList (encodeChars bytes)

/-- The bytes that a list of base58 digits spells; any other character refuses it. -/
def decodeChars? (characters : List Char) : Option Bytes := do
  let digits ← characters.mapM digitOf?
  let number := Numeral.value 58 digits.reverse
  some (List.replicate (characters.takeWhile (· == '1')).length 0 ++
    ((Numeral.digits 256 number).map UInt8.ofNat).reverse)

/-- The bytes that a base58 text spells. -/
def decode? (text : String) : Option Bytes := decodeChars? text.toList

end SolanaTransactions.Base58
