/-
Module: SolanaTransactions.Sequence
Purpose: Arguments that are one thing or many, and lists cut into pieces.
Main exports: OneOrMany, OneOrMany.toList, chunks?, chunksOf
-/

namespace SolanaTransactions

/-- An argument for which one element may stand in place of a list of one. -/
inductive OneOrMany (α : Type) where
  | one (element : α)
  | many (elements : List α)
deriving Repr

/-- The elements of an argument. -/
def OneOrMany.toList {α : Type} : OneOrMany α → List α
  | one element => [element]
  | many elements => elements

/-- The pieces of a list that have a given positive length, the last one possibly shorter. -/
def chunksOf {α : Type} (size : Nat) (elements : List α) : List (List α) :=
  if size = 0 ∨ elements.isEmpty then []
  else elements.take size :: chunksOf size (elements.drop size)
termination_by elements.length
decreasing_by
  rename_i nonempty
  simp only [not_or, List.isEmpty_iff] at nonempty
  have positive : 0 < elements.length := by
    cases elements with
    | nil => simp at nonempty
    | cons head rest => simp
  simp only [List.length_drop]
  omega

/-- The pieces of a list; there is no answer for a piece length of zero, and a negative one gives no
pieces. -/
def chunks? {α : Type} (elements : List α) (size : Int) : Option (List (List α)) :=
  if size = 0 then none else some (chunksOf size.toNat elements)

end SolanaTransactions
