/-
Module: SolanaTransactions.Text.Blank
Purpose: The blank characters of Unicode and the trimming of text.
Main exports: isBlank, trimEnd, trim, unifyLineEnds
-/

namespace SolanaTransactions

/-!
A character is blank when Unicode gives it the property White_Space or when it is
one of the four information separators of ASCII.
-/

/-- The blank characters as closed ranges of code points, ascending and apart. -/
def blankRanges : List (Nat × Nat) :=
  [(0x09, 0x0D), (0x1C, 0x20), (0x85, 0x85), (0xA0, 0xA0), (0x1680, 0x1680), (0x2000, 0x200A),
   (0x2028, 0x2029), (0x202F, 0x202F), (0x205F, 0x205F), (0x3000, 0x3000)]

/-- Whether a character is blank. -/
def isBlank (character : Char) : Bool :=
  blankRanges.any fun range => range.1 ≤ character.toNat && character.toNat ≤ range.2

/-- A list of characters without the blanks at its end. -/
def trimEnd (characters : List Char) : List Char := (characters.reverse.dropWhile isBlank).reverse

/-- A list of characters without the blanks at its two ends. -/
def trim (characters : List Char) : List Char := trimEnd (characters.dropWhile isBlank)

/-- The same lines, each of them ended by a line feed: a carriage return, alone or before a line
feed, becomes a line feed. -/
def unifyLineEnds : List Char → List Char
  | [] => []
  | '\r' :: '\n' :: rest => '\n' :: unifyLineEnds rest
  | '\r' :: rest => '\n' :: unifyLineEnds rest
  | character :: rest => character :: unifyLineEnds rest

end SolanaTransactions
