/-
Module: SolanaTransactions.Text.DecimalDigit
Purpose: The decimal digits of all scripts, and numerals that are written with them.
Main exports: DecimalDigit.value?, Integer.read?
-/
import SolanaTransactions.Text.Blank

namespace SolanaTransactions

namespace DecimalDigit

/-!
In Unicode the ten decimal digits of a script follow each other, so a table of
the zeros is enough.  The table is that of version 14.
-/

/-- The code points of the digits zero of all scripts, ascending. -/
def zeros : List Nat :=
  [0x30, 0x660, 0x6F0, 0x7C0, 0x966, 0x9E6, 0xA66, 0xAE6, 0xB66, 0xBE6, 0xC66, 0xCE6, 0xD66,
   0xDE6, 0xE50, 0xED0, 0xF20, 0x1040, 0x1090, 0x17E0, 0x1810, 0x1946, 0x19D0, 0x1A80, 0x1A90,
   0x1B50, 0x1BB0, 0x1C40, 0x1C50, 0xA620, 0xA8D0, 0xA900, 0xA9D0, 0xA9F0, 0xAA50, 0xABF0,
   0xFF10, 0x104A0, 0x10D30, 0x11066, 0x110F0, 0x11136, 0x111D0, 0x112F0, 0x11450, 0x114D0,
   0x11650, 0x116C0, 0x11730, 0x118E0, 0x11950, 0x11C50, 0x11D50, 0x11DA0, 0x16A60, 0x16AC0,
   0x16B50, 0x1D7CE, 0x1D7D8, 0x1D7E2, 0x1D7EC, 0x1D7F6, 0x1E140, 0x1E2F0, 0x1E950, 0x1FBF0]

/-- The value of a decimal digit of any script. -/
def value? (character : Char) : Option Nat :=
  (zeros.find? fun first => first ≤ character.toNat && character.toNat < first + 10).map
    fun first => character.toNat - first

/-- The value of an ASCII digit. -/
def ascii? (character : Char) : Option Nat :=
  if character.isDigit then some (character.toNat - 48) else none

/-- The number that a list of digits spells, highest first. -/
def combine (digits : List Nat) : Nat := digits.foldl (fun number digit => 10 * number + digit) 0

end DecimalDigit

namespace Numeric

/-!
Numbers in text may be surrounded by blanks and be written with the digits of any
script.  Both are made plain first: digits become ASCII digits, and blanks beyond
ASCII become spaces.
-/

/-- A character of a number in plain form; `?` occurs in no number. -/
def plainCharacter (character : Char) : Char :=
  if character.toNat < 128 then character
  else if isBlank character then ' '
  else
    match DecimalDigit.value? character with
    | some digit => Char.ofNat (48 + digit)
    | none => '?'

/-- Whether a character may surround a number in plain form. -/
def isPadding (character : Char) : Bool :=
  character == ' ' || (9 ≤ character.toNat && character.toNat ≤ 13)

/-- The plain form of a number in text, without what surrounds it. -/
def plain (text : List Char) : List Char :=
  (((text.map plainCharacter).dropWhile isPadding).reverse.dropWhile isPadding).reverse

/-- The sign in front of a number, and the rest: whether it is negative. -/
def takeSign : List Char → Bool × List Char
  | '-' :: rest => (true, rest)
  | '+' :: rest => (false, rest)
  | characters => (false, characters)

end Numeric

namespace Integer

/-- The most digits that the text of an integer may have. -/
def maxDigits : Nat := 4300

/-- The digits of an unsigned integer, among which single underscores may stand. -/
def digits? : List Char → Option (List Nat)
  | [] => none
  | [last] => (DecimalDigit.ascii? last).map ([·])
  | first :: '_' :: rest => do
      let digit ← DecimalDigit.ascii? first
      let later ← digits? rest
      some (digit :: later)
  | first :: rest => do
      let digit ← DecimalDigit.ascii? first
      let later ← digits? rest
      some (digit :: later)

/-- The integer that a text spells: a sign or none, and digits. -/
def read? (text : List Char) : Option Int := do
  let (negative, unsigned) := Numeric.takeSign (Numeric.plain text)
  let digits ← digits? unsigned
  if digits.length > maxDigits then none
  else
    let magnitude : Int := DecimalDigit.combine digits
    some (if negative then -magnitude else magnitude)

end Integer

end SolanaTransactions
