/-
Module: SolanaTransactions.Proofs.KeySet
Purpose: Key sets are determined by their members, and what that says about sizes.
Main exports:
  KeySet.ext, KeySet.toList_eq_filter, KeySet.toList_difference, KeySet.difference_difference,
  KeySet.inter, KeySet.size_inter_add_size_difference, heldBy_add_missing, heldBy_eq_size_inter,
  heldBy_eq_length_filter
-/
import Mathlib.Data.List.Basic
import Mathlib.Data.List.Sort
import SolanaTransactions.Sizing.TableSearch

namespace SolanaTransactions

namespace KeySet

instance : Std.Irrefl (α := Key) (· < ·) := ⟨lt_irrefl⟩

instance : Std.Antisymm (α := Key) (· < ·) :=
  ⟨fun left right below above =>
    absurd (Nat.lt_trans (m := right.toNat) below above) (Nat.lt_irrefl left.toNat)⟩

/-- Two sets with the same members are the same list. -/
theorem ext {left right : KeySet} (same : ∀ key, key ∈ left ↔ key ∈ right) : left = right := by
  obtain ⟨leftKeys, leftAscending⟩ := left
  obtain ⟨rightKeys, rightAscending⟩ := right
  have keysEq : leftKeys = rightKeys := leftAscending.eq_of_mem_iff rightAscending same
  subst keysEq
  rfl

/-- A subset that a test describes is the filtered list. -/
theorem toList_eq_filter {part whole : KeySet} {test : Key → Bool}
    (same : ∀ key, key ∈ part ↔ key ∈ whole ∧ test key = true) :
    part.toList = whole.toList.filter test := by
  apply part.ascending.eq_of_mem_iff (whole.ascending.filter test)
  intro key
  rw [List.mem_filter]
  exact same key

theorem toList_difference (left right : KeySet) :
    (left.difference right).toList = left.toList.filter fun key => !right.toList.contains key := by
  apply toList_eq_filter
  intro key
  rw [mem_difference]
  simp [mem_def]

/-- Taking two sets away one after the other takes their union away. -/
theorem difference_difference (keys left right : KeySet) :
    (keys.difference left).difference right = keys.difference (left.union right) := by
  apply ext
  intro key
  simp only [mem_difference, mem_union, not_or, and_assoc]

theorem ofList_append (left right : List Key) :
    ofList (left ++ right) = (ofList left).union (ofList right) := by
  apply ext
  intro key
  simp

/-- The members of both sets. -/
def inter (left right : KeySet) : KeySet :=
  ⟨left.toList.filter fun key => right.toList.contains key, left.ascending.filter _⟩

@[simp] theorem mem_inter {key : Key} {left right : KeySet} :
    key ∈ left.inter right ↔ key ∈ left ∧ key ∈ right := by
  simp [inter, mem_def]

/-- Every member of a set is either shared with another set or missing from it. -/
theorem size_inter_add_size_difference (left right : KeySet) :
    (left.inter right).size + (left.difference right).size = left.size := by
  rw [size, size, toList_difference, inter]
  exact (List.length_eq_length_filter_add _).symm

/-- Nothing is taken away with the empty set. -/
theorem difference_ofList_nil (keys : KeySet) : keys.difference (ofList []) = keys := by
  apply ext
  intro key
  simp

end KeySet

/-- Every key is either held by a set of addresses or missing from it. -/
theorem heldBy_add_missing (keys addresses : KeySet) :
    (heldBy keys addresses).1 + (keys.difference addresses).size = keys.size := by
  have shorter : (keys.difference addresses).size ≤ keys.size :=
    (KeySet.withoutSorted_sublist keys.toList addresses.toList).length_le
  simp only [heldBy]
  omega

/-- The keys that a set of addresses holds are those that it shares. -/
theorem heldBy_eq_size_inter (keys addresses : KeySet) :
    (heldBy keys addresses).1 = (keys.inter addresses).size := by
  have total := heldBy_add_missing keys addresses
  have split := keys.size_inter_add_size_difference addresses
  omega

/-- The keys that a set of addresses holds are the members that pass the test of membership. -/
theorem heldBy_eq_length_filter (keys addresses : KeySet) :
    (heldBy keys addresses).1 =
      (keys.toList.filter fun key => addresses.toList.contains key).length :=
  heldBy_eq_size_inter keys addresses

end SolanaTransactions
