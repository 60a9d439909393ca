/-
Module: SolanaTransactions.Proofs.Text.Joined
Purpose: Texts with a separator between them, and texts cut at a mark.
Main exports: forall_mem_intercalate, Text.cut, Text.cut_of_notMem, Text.cut_append
-/
import Mathlib.Data.List.TakeWhile

namespace SolanaTransactions.Text

variable {Kind : Char → Prop} {mark : Char} {text before : List Char}

/-- What holds of the separator and of the pieces holds of the joined text. -/
theorem forall_mem_intercalate {separator : List Char} {pieces : List (List Char)}
    (between : ∀ character ∈ separator, Kind character)
    (inside : ∀ piece ∈ pieces, ∀ character ∈ piece, Kind character) :
    ∀ character ∈ separator.intercalate pieces, Kind character := by
  induction pieces with
  | nil => simp
  | cons first rest ih =>
      obtain ⟨here, later⟩ := List.forall_mem_cons.1 inside
      cases rest with
      | nil => simpa [List.intercalate_singleton] using here
      | cons second rest =>
          rw [List.intercalate_cons_cons]
          simp only [List.forall_mem_append]
          exact ⟨⟨here, between⟩, ih later⟩

/-- What stands before the first occurrence of a mark, and what stands behind it. -/
def cut (mark : Char) (text : List Char) : List Char × List Char :=
  (text.takeWhile (· != mark), (text.dropWhile (· != mark)).drop 1)

theorem cut_of_notMem (absent : mark ∉ text) : cut mark text = (text, []) := by
  have others : ∀ character ∈ text, (character != mark) = true := fun character member =>
    bne_iff_ne.2 fun same => absent (same ▸ member)
  rw [cut, List.takeWhile_eq_self_iff.2 others, List.dropWhile_eq_nil_iff.2 others, List.drop_nil]

theorem cut_append (absent : mark ∉ before) (after : List Char) :
    cut mark (before ++ mark :: after) = (before, after) := by
  have others : ∀ character ∈ before, (character != mark) = true := fun character member =>
    bne_iff_ne.2 fun same => absent (same ▸ member)
  simp [cut, List.takeWhile_append_of_pos others, List.dropWhile_append_of_pos others]

end SolanaTransactions.Text
