/-
Module: SolanaTransactions.KeySet
Purpose: Finite sets of keys, kept in ascending order.
Main exports:
  KeySet, KeySet.ofList, KeySet.union, KeySet.difference, KeySet.size,
  KeySet.mem_ofList, KeySet.mem_union, KeySet.mem_difference
-/
import SolanaTransactions.Key

namespace SolanaTransactions

/-!
A set is the ascending list of its members.  The order makes the list unique, so
its length is the number of members, and it lets a difference be taken in one
walk over both lists.
-/

/-- A finite set of keys. -/
structure KeySet where
  /-- The members in ascending order. -/
  toList : List Key
  /-- No member is repeated and each is below the ones after it. -/
  ascending : toList.Pairwise (· < ·)

namespace KeySet

/-- Put a key into an ascending list, unless it is there. -/
def insertSorted (key : Key) : List Key → List Key
  | [] => [key]
  | head :: rest =>
      if key < head then key :: head :: rest
      else if key = head then head :: rest
      else head :: insertSorted key rest

/-- The members of the first ascending list that the second one lacks. -/
def withoutSorted : List Key → List Key → List Key
  | [], _ => []
  | keys, [] => keys
  | key :: keys, other :: others =>
      if key < other then key :: withoutSorted keys (other :: others)
      else if key = other then withoutSorted keys (other :: others)
      else withoutSorted (key :: keys) others
termination_by keys others => keys.length + others.length

theorem lt_trans {a b c : Key} (ab : a < b) (bc : b < c) : a < c :=
  Nat.lt_trans (m := b.toNat) ab bc

theorem lt_irrefl (key : Key) : ¬ key < key := Nat.lt_irrefl key.toNat

theorem lt_of_not_lt_of_ne {a b : Key} (above : ¬ a < b) (different : a ≠ b) : b < a := by
  have order : ¬ a.toNat < b.toNat := above
  have numbers : a.toNat ≠ b.toNat := fun same => different (Key.ext_toNat same)
  show b.toNat < a.toNat
  omega

theorem mem_insertSorted {key other : Key} {keys : List Key} :
    other ∈ insertSorted key keys ↔ other = key ∨ other ∈ keys := by
  induction keys with
  | nil => simp [insertSorted]
  | cons head rest ih =>
      simp only [insertSorted]
      split
      · simp
      · split
        · next same => simp [same]
        · simp only [List.mem_cons, ih]
          constructor
          · rintro (h | h | h) <;> simp [h]
          · rintro (h | h | h) <;> simp [h]

theorem insertSorted_ascending {key : Key} {keys : List Key}
    (sorted : keys.Pairwise (· < ·)) : (insertSorted key keys).Pairwise (· < ·) := by
  induction keys with
  | nil => simp [insertSorted]
  | cons head rest ih =>
      have below := (List.pairwise_cons.1 sorted).1
      have tail := (List.pairwise_cons.1 sorted).2
      simp only [insertSorted]
      split
      · next smaller =>
        refine List.pairwise_cons.2 ⟨fun other member => ?_, sorted⟩
        rcases List.mem_cons.1 member with rfl | later
        · exact smaller
        · exact lt_trans smaller (below _ later)
      · next notSmaller =>
        split
        · exact sorted
        · next different =>
          refine List.pairwise_cons.2 ⟨fun other member => ?_, ih tail⟩
          rcases mem_insertSorted.1 member with rfl | later
          · exact lt_of_not_lt_of_ne notSmaller different
          · exact below _ later

theorem withoutSorted_sublist (keys others : List Key) :
    (withoutSorted keys others).Sublist keys := by
  fun_induction withoutSorted keys others with
  | case1 => simp
  | case2 => simp
  | case3 key keys other others _ ih => exact ih.cons_cons key
  | case4 keys other others _ ih => exact ih.cons other
  | case5 key keys other others _ _ ih => exact ih

theorem mem_withoutSorted {keys others : List Key} (sorted : keys.Pairwise (· < ·))
    (otherSorted : others.Pairwise (· < ·)) {key : Key} :
    key ∈ withoutSorted keys others ↔ key ∈ keys ∧ key ∉ others := by
  fun_induction withoutSorted keys others with
  | case1 => simp
  | case2 => simp
  | case3 head keys other others smaller ih =>
      have below := (List.pairwise_cons.1 otherSorted).1
      rw [List.mem_cons, ih (List.pairwise_cons.1 sorted).2 otherSorted]
      constructor
      · rintro (rfl | ⟨member, missing⟩)
        · refine ⟨List.mem_cons_self, fun held => ?_⟩
          rcases List.mem_cons.1 held with rfl | later
          · exact lt_irrefl _ smaller
          · exact lt_irrefl _ (lt_trans smaller (below _ later))
        · exact ⟨List.mem_cons_of_mem _ member, missing⟩
      · rintro ⟨member, missing⟩
        rcases List.mem_cons.1 member with rfl | later
        · exact Or.inl rfl
        · exact Or.inr ⟨later, missing⟩
  | case4 head keys others _ ih =>
      have below := (List.pairwise_cons.1 sorted).1
      rw [ih (List.pairwise_cons.1 sorted).2 otherSorted]
      constructor
      · rintro ⟨member, missing⟩
        exact ⟨List.mem_cons_of_mem _ member, missing⟩
      · rintro ⟨member, missing⟩
        rcases List.mem_cons.1 member with rfl | later
        · exact absurd List.mem_cons_self missing
        · exact ⟨later, missing⟩
  | case5 head keys other others notSmaller different ih =>
      have larger := lt_of_not_lt_of_ne notSmaller different
      have below := (List.pairwise_cons.1 sorted).1
      rw [ih sorted (List.pairwise_cons.1 otherSorted).2]
      constructor
      · rintro ⟨member, missing⟩
        refine ⟨member, fun held => ?_⟩
        rcases List.mem_cons.1 held with rfl | later
        · rcases List.mem_cons.1 member with rfl | further
          · exact lt_irrefl _ larger
          · exact lt_irrefl _ (lt_trans larger (below _ further))
        · exact missing later
      · rintro ⟨member, missing⟩
        exact ⟨member, fun held => missing (List.mem_cons_of_mem _ held)⟩

/-- The set without members. -/
def empty : KeySet := ⟨[], List.Pairwise.nil⟩

instance : Inhabited KeySet := ⟨empty⟩

/-- A set with one more member. -/
def insert (key : Key) (set : KeySet) : KeySet :=
  ⟨insertSorted key set.toList, insertSorted_ascending set.ascending⟩

/-- The set of the keys in a list. -/
def ofList (keys : List Key) : KeySet := keys.foldr insert empty

/-- The members of either set. -/
def union (left right : KeySet) : KeySet := left.toList.foldr insert right

/-- The members of the first set that the second one lacks. -/
def difference (left right : KeySet) : KeySet :=
  ⟨withoutSorted left.toList right.toList,
    left.ascending.sublist (withoutSorted_sublist left.toList right.toList)⟩

/-- How many members a set has. -/
def size (set : KeySet) : Nat := set.toList.length

instance : Membership Key KeySet := ⟨fun set key => key ∈ set.toList⟩

theorem mem_def {key : Key} {set : KeySet} : key ∈ set ↔ key ∈ set.toList := Iff.rfl

@[simp] theorem mem_insert {key other : Key} {set : KeySet} :
    other ∈ set.insert key ↔ other = key ∨ other ∈ set := mem_insertSorted

@[simp] theorem mem_ofList {key : Key} {keys : List Key} : key ∈ ofList keys ↔ key ∈ keys := by
  induction keys with
  | nil => simp [ofList, empty, mem_def]
  | cons head rest ih =>
      rw [List.mem_cons, ← ih]
      exact mem_insert

@[simp] theorem mem_union {key : Key} {left right : KeySet} :
    key ∈ left.union right ↔ key ∈ left ∨ key ∈ right := by
  have general : ∀ keys : List Key,
      key ∈ keys.foldr insert right ↔ key ∈ keys ∨ key ∈ right := by
    intro keys
    induction keys with
    | nil => simp
    | cons head rest ih => simp [ih, or_assoc]
  exact general left.toList

@[simp] theorem mem_difference {key : Key} {left right : KeySet} :
    key ∈ left.difference right ↔ key ∈ left ∧ key ∉ right :=
  mem_withoutSorted left.ascending right.ascending

/-- The list of members repeats none of them. -/
theorem nodup (set : KeySet) : set.toList.Nodup := by
  refine set.ascending.imp ?_
  rintro key _ smaller rfl
  exact lt_irrefl key smaller

end KeySet

end SolanaTransactions
