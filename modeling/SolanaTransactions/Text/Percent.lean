/-
Module: SolanaTransactions.Text.Percent
Purpose: Percent-encoding of byte strings in the query part of a link.
Main exports: Percent.encodeByte, Percent.encode, Percent.encodeText, Percent.decode?
-/
import SolanaTransactions.Bytes

namespace SolanaTransactions.Percent

/-!
The unreserved characters of a link stand for themselves and every other byte is
written as `%` and two uppercase hexadecimal digits.  Nothing else is kept, so
the written form never holds a separator of the query syntax.
-/

/-- The UTF-8 bytes of a text. -/
def utf8 (text : String) : Bytes := text.toUTF8.data.toList

/-- Whether a byte is an ASCII letter or digit or one of `-`, `.`, `_` and `~`. -/
def isUnreserved (byte : UInt8) : Bool :=
  let code := byte.toNat
  (48 ≤ code && code ≤ 57) || (65 ≤ code && code ≤ 90) || (97 ≤ code && code ≤ 122) ||
    code == 45 || code == 46 || code == 95 || code == 126

/-- The uppercase hexadecimal digit of a number below 16. -/
def hexDigit (number : Nat) : Char :=
  if number < 10 then Char.ofNat (48 + number) else Char.ofNat (55 + number)

/-- The value of an uppercase hexadecimal digit. -/
def hexValue? (character : Char) : Option Nat :=
  let code := character.toNat
  if 48 ≤ code ∧ code ≤ 57 then some (code - 48)
  else if 65 ≤ code ∧ code ≤ 70 then some (code - 55)
  else none

/-- The written form of one byte. -/
def encodeByte (byte : UInt8) : List Char :=
  if isUnreserved byte then [Char.ofNat byte.toNat]
  else ['%', hexDigit (byte.toNat / 16), hexDigit (byte.toNat % 16)]

/-- The written form of a byte string. -/
def encode (bytes : Bytes) : List Char := bytes.flatMap encodeByte

/-- The written form of a text, byte by byte in UTF-8. -/
def encodeText (text : String) : String := String.ofList (encode (utf8 text))

/-- The bytes that a written form stands for. -/
def decode? : List Char → Option Bytes
  | [] => some []
  | '%' :: high :: low :: rest => do
      let upper ← hexValue? high
      let lower ← hexValue? low
      let later ← decode? rest
      some (UInt8.ofNat (16 * upper + lower) :: later)
  | character :: rest =>
      let byte := UInt8.ofNat character.toNat
      if character.toNat < 256 ∧ isUnreserved byte then (decode? rest).map (byte :: ·) else none

end SolanaTransactions.Percent
