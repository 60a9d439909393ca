/-
Module: SolanaTransactions.Text.Base64
Purpose: The padded base64 text of a byte string and its reader.
Main exports: Base64.encode, Base64.decode?
-/
import SolanaTransactions.Bytes

namespace SolanaTransactions.Base64

/-!
Three bytes make four digits of six bits.  The last group may be short: one byte
makes two digits and `==`, two bytes make three digits and `=`.
-/

/-- The digits in ascending order of value. -/
def alphabet : List Char :=
  "ABCDEFGHIJKLMNOPQRSTUVWXYZabcdefghijklmnopqrstuvwxyz0123456789+/".toList

/-- The character of a digit below 64. -/
def character (digit : Nat) : Char := alphabet.getD digit 'A'

/-- The value of a character, when it is a base64 digit. -/
def digitOf? (character : Char) : Option Nat := alphabet.idxOf? character

/-- The base64 digits and padding of a byte string. -/
def encodeChars : Bytes → List Char
  | [] => []
  | [first] =>
      let a := first.toNat
      [character (a / 4), character (a % 4 * 16), '=', '=']
  | [first, second] =>
      let a := first.toNat
      let b := second.toNat
      [character (a / 4), character (a % 4 * 16 + b / 16), character (b % 16 * 4), '=']
  | first :: second :: third :: rest =>
      let a := first.toNat
      let b := second.toNat
      let c := third.toNat
      character (a / 4) :: character (a % 4 * 16 + b / 16) ::
        character (b % 16 * 4 + c / 64) :: character (c % 64) :: encodeChars rest

/-- The base64 text of a byte string. -/
def encode (bytes : Bytes) : String := String.ofList (encodeChars bytes)

/-- The bytes that base64 digits spell.  A short group must be the last one, be padded to four
characters and leave no stray bits. -/
def decodeChars? : List Char → Option Bytes
  | [] => some []
  | [w, x, '=', '='] => do
      let a ← digitOf? w
      let b ← digitOf? x
      if b % 16 = 0 then some [UInt8.ofNat (a * 4 + b / 16)] else none
  | [w, x, y, '='] => do
      let a ← digitOf? w
      let b ← digitOf? x
      let c ← digitOf? y
      if c % 4 = 0 then
        some [UInt8.ofNat (a * 4 + b / 16), UInt8.ofNat (b % 16 * 16 + c / 4)]
      else none
  | w :: x :: y :: z :: rest => do
      let a ← digitOf? w
      let b ← digitOf? x
      let c ← digitOf? y
      let d ← digitOf? z
      let later ← decodeChars? rest
      some (UInt8.ofNat (a * 4 + b / 16) :: UInt8.ofNat (b % 16 * 16 + c / 4) ::
        UInt8.ofNat (c % 4 * 64 + d) :: later)
  | _ => none

/-- The bytes that a base64 text spells. -/
def decode? (text : String) : Option Bytes := decodeChars? text.toList

end SolanaTransactions.Base64
