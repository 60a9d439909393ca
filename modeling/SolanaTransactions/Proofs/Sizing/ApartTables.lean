/-
Module: SolanaTransactions.Proofs.Sizing.ApartTables
Purpose: Tables that share no account of a transaction: the greedy choice fits whenever any does.
Main exports:
  searchTables_chosen, Search.sizeWith, LookupTable.Apart, size_searchTables_le_of_apart
-/
import SolanaTransactions.Proofs.Sizing.Within

namespace SolanaTransactions

/-!
A choice of tables is weighed against what the search commits.  When the tables
of a pool share none of the keys that remain, committing one of them takes
nothing from the others: a committed table that the choice leaves out only makes
the choice smaller, and a table that the search refuses is of no use to the
choice either.
-/

variable {fixed : FixedPart} {search : Search} {pool chosen left : List Candidate}

/-! ### What the search takes from its pool -/

/-- The candidate of the cheapest trial and those of the others are the pool. -/
theorem perm_of_cheapest {bound : Int} {trial : Candidate × Search}
    {others : List (Candidate × Search)}
    (found : leastBelow (fun trial => trial.2.size) bound (search.trials fixed pool) =
      some (trial, others)) :
    pool.Perm (trial.1 :: others.map Prod.fst) := by
  have order := (leastBelow_perm found).map Prod.fst
  rw [Search.trials, List.map_map, List.map_cons] at order
  exact (List.map_id pool).symm ▸ order

/-- The search commits candidates of its pool, each of them once. -/
theorem searchTables_chosen (fixed : FixedPart) (search : Search) (pool : List Candidate) :
    ∃ chosen left, pool.Perm (chosen ++ left) ∧
      (searchTables fixed search pool).tables =
        search.tables ++ chosen.map fun candidate => candidate.table := by
  fun_induction searchTables fixed search pool with
  | case1 search pool trial found =>
      obtain ⟨inPool, committed⟩ := Search.mem_trials (List.mem_of_find?_eq_some found)
      obtain ⟨front, back, rfl⟩ := List.append_of_mem inPool
      exact ⟨[trial.1], front ++ back, List.perm_middle, by rw [committed]; rfl⟩
  | case2 search pool _ _ => exact ⟨[], pool, List.Perm.refl pool, (List.append_nil _).symm⟩
  | case3 search pool _ trial others found _ ih =>
      have order := leastBelow_perm found
      obtain ⟨_, committed⟩ := Search.mem_trials (order.mem_iff.2 List.mem_cons_self)
      obtain ⟨chosen, left, split, tables⟩ := ih
      refine ⟨trial.1 :: chosen, left, (perm_of_cheapest found).trans (split.cons _), ?_⟩
      rw [tables, committed]
      simp [Search.commit]

/-! ### The size with further tables -/

/-- The size that a search comes to when it commits some further tables, whatever they are. -/
def Search.sizeWith (fixed : FixedPart) (search : Search) (tables : List LookupTable) : Int :=
  let missing := search.remaining.difference (LookupTable.addressUnion tables)
  totalSize fixed (search.tables.length + tables.length)
    (search.loaded + (search.remaining.size - missing.size)) missing.size

/-- The size of a search is that of its counts. -/
def Search.Sized (fixed : FixedPart) (search : Search) : Prop :=
  search.size = totalSize fixed search.tables.length search.loaded search.remaining.size

theorem Search.sized_commit (candidate : Candidate) :
    (search.commit fixed candidate).Sized fixed := by
  simp [Search.Sized, Search.commit, heldBy]

theorem LookupTable.addressUnion_nil : addressUnion [] = KeySet.ofList [] := rfl

/-- Taking a table and others away takes the table's addresses away first. -/
theorem difference_addressUnion_cons {candidate : Candidate} (faithful : candidate.Faithful)
    (keys : KeySet) (tables : List LookupTable) :
    keys.difference (LookupTable.addressUnion (candidate.table :: tables)) =
      (keys.difference candidate.addresses).difference (LookupTable.addressUnion tables) := by
  rw [KeySet.difference_difference, faithful, LookupTable.addressUnion, List.flatMap_cons,
    KeySet.ofList_append]
  rfl

theorem addressUnion_perm {some other : List LookupTable} (same : some.Perm other) :
    LookupTable.addressUnion some = LookupTable.addressUnion other := by
  apply KeySet.ext
  intro key
  simp only [LookupTable.addressUnion, KeySet.mem_ofList]
  exact (same.flatMap_right _).mem_iff

namespace Search

theorem sizeWith_nil (sized : search.Sized fixed) : search.sizeWith fixed [] = search.size := by
  rw [sizeWith, LookupTable.addressUnion_nil, KeySet.difference_ofList_nil, sized]
  simp

theorem sizeWith_perm {some other : List LookupTable} (same : some.Perm other) :
    search.sizeWith fixed some = search.sizeWith fixed other := by
  rw [sizeWith, sizeWith, addressUnion_perm same, same.length_eq]

/-- What a search has committed counts like what it may still commit. -/
theorem sizeWith_commit {candidate : Candidate} (faithful : candidate.Faithful)
    (tables : List LookupTable) :
    (search.commit fixed candidate).sizeWith fixed tables =
      search.sizeWith fixed (candidate.table :: tables) := by
  have total := heldBy_add_missing search.remaining candidate.addresses
  have missing : (search.commit fixed candidate).remaining =
      search.remaining.difference candidate.addresses := rfl
  have loaded : (search.commit fixed candidate).loaded =
      search.loaded + (heldBy search.remaining candidate.addresses).1 := rfl
  have count : (search.commit fixed candidate).tables = search.tables ++ [candidate.table] := rfl
  rw [sizeWith, sizeWith, difference_addressUnion_cons faithful, missing, loaded, count,
    List.length_append, List.length_cons, List.length_cons, List.length_nil]
  congr 1 <;> omega

/-- The size of a search that starts without tables is that of its start with its tables. -/
theorem size_eq_sizeWith_of_books {keys : KeySet} {plain : Int} (books : Books fixed keys search) :
    search.size = (start plain keys).sizeWith fixed search.tables := by
  have loaded := books.loaded
  rw [books.size, sizeWith]
  simp only [start, List.length_nil, ← books.remaining]
  congr 1 <;> omega

end Search

/-! ### Tables that are worth their overhead and tables that are not -/

/-- One more table that finds two keys saves more than its overhead. -/
theorem totalSize_lt_of_two_le {tables loaded missing moreLoaded fewerMissing : Int}
    (same : moreLoaded + fewerMissing = loaded + missing) (two : fewerMissing + 2 ≤ missing) :
    totalSize fixed (tables + 1) moreLoaded fewerMissing < totalSize fixed tables loaded missing := by
  have mono : compactLength (fixed.keys + fewerMissing) ≤ compactLength (fixed.keys + missing) :=
    compactLength_mono (by omega)
  simp only [totalSize, lookupTableOverhead, keyLength]
  omega

/-- Tables that find at most one key each save nothing together. -/
theorem totalSize_le_of_le {tables more loaded missing moreLoaded fewerMissing : Int}
    (same : moreLoaded + fewerMissing = loaded + missing) (fewer : fewerMissing ≤ missing)
    (few : missing ≤ fewerMissing + more) :
    totalSize fixed tables loaded missing ≤
      totalSize fixed (tables + more) moreLoaded fewerMissing := by
  have before := compactLength_le_two (fixed.keys + missing)
  have after := one_le_compactLength (fixed.keys + fewerMissing)
  rcases Int.lt_or_eq_of_le fewer with some | rfl
  · simp only [totalSize, lookupTableOverhead, keyLength]
    omega
  · simp only [totalSize, lookupTableOverhead]
    omega

/-- A commit shrinks the transaction exactly when it finds two keys. -/
theorem Search.commit_lt_iff (sized : search.Sized fixed) (candidate : Candidate) :
    (search.commit fixed candidate).size < search.size ↔
      2 ≤ (heldBy search.remaining candidate.addresses).1 := by
  have total := heldBy_add_missing search.remaining candidate.addresses
  have committed : (search.commit fixed candidate).size = totalSize fixed
      (search.tables.length + 1) (search.loaded + (heldBy search.remaining candidate.addresses).1)
      (search.remaining.difference candidate.addresses).size := rfl
  rw [committed, sized]
  constructor
  · intro smaller
    rw [← total, Int.natCast_add] at smaller
    exact Int.ofNat_le.1 (two_le_of_totalSize_lt (Int.natCast_nonneg _) smaller)
  · intro two
    apply totalSize_lt_of_two_le <;> omega

theorem heldBy_difference_le (keys others addresses : KeySet) :
    (heldBy (keys.difference others) addresses).1 ≤ (heldBy keys addresses).1 := by
  rw [heldBy_eq_length_filter, heldBy_eq_length_filter, KeySet.toList_difference]
  exact (List.filter_sublist.filter _).length_le

/-- Tables that hold at most one key each leave all but one for each. -/
theorem size_le_of_few {keys : KeySet} (faithful : ∀ candidate ∈ chosen, candidate.Faithful)
    (few : ∀ candidate ∈ chosen, (heldBy keys candidate.addresses).1 ≤ 1) :
    keys.size ≤ chosen.length +
      (keys.difference (LookupTable.addressUnion (chosen.map (·.table)))).size := by
  induction chosen generalizing keys with
  | nil =>
      rw [List.map_nil, LookupTable.addressUnion_nil, KeySet.difference_ofList_nil]
      exact Nat.le_add_left _ _
  | cons candidate chosen ih =>
      obtain ⟨here, others⟩ := List.forall_mem_cons.1 faithful
      obtain ⟨one, rest⟩ := List.forall_mem_cons.1 few
      have total := heldBy_add_missing keys candidate.addresses
      have later := ih others fun other member =>
        Nat.le_trans (heldBy_difference_le keys candidate.addresses other.addresses)
          (rest other member)
      rw [List.map_cons, difference_addressUnion_cons here, List.length_cons]
      omega

/-- A search that no candidate shrinks is no larger than with any further tables. -/
theorem Search.size_le_sizeWith (sized : search.Sized fixed)
    (faithful : ∀ candidate ∈ chosen, candidate.Faithful)
    (stuck : ∀ candidate ∈ chosen, search.size ≤ (search.commit fixed candidate).size) :
    search.size ≤ search.sizeWith fixed (chosen.map (·.table)) := by
  have few : ∀ candidate ∈ chosen, (heldBy search.remaining candidate.addresses).1 ≤ 1 := by
    intro candidate member
    exact Nat.le_of_lt_succ
      (Nat.not_le.1 (mt (commit_lt_iff sized candidate).2 (Int.not_lt.2 (stuck candidate member))))
  have bound := size_le_of_few faithful few
  have fewer : (search.remaining.difference
      (LookupTable.addressUnion (chosen.map (·.table)))).size ≤ search.remaining.size :=
    KeySet.size_le_of_subset fun _ member => (KeySet.mem_difference.1 member).1
  rw [sizeWith, List.length_map, sized]
  apply totalSize_le_of_le <;> omega

/-! ### Tables that share none of the keys -/

/-- Two tables share none of the keys of a set. -/
def LookupTable.Apart (keys : KeySet) (first second : LookupTable) : Prop :=
  ∀ key ∈ keys, key ∈ first.addresses → key ∉ second.addresses

namespace LookupTable.Apart

variable {keys : KeySet} {first second : LookupTable}

theorem symm (apart : Apart keys first second) : Apart keys second first :=
  fun key member inSecond inFirst => apart key member inFirst inSecond

theorem mono {fewer : KeySet} (apart : Apart keys first second)
    (subset : ∀ key ∈ fewer, key ∈ keys) : Apart fewer first second :=
  fun key member => apart key (subset key member)

end LookupTable.Apart

/-- What a table finds is still there when tables apart from it have been committed. -/
theorem heldBy_difference_of_apart {keys : KeySet} {candidate : Candidate}
    {tables : List LookupTable} (faithful : candidate.Faithful)
    (apart : ∀ table ∈ tables, LookupTable.Apart keys candidate.table table) :
    (heldBy (keys.difference (LookupTable.addressUnion tables)) candidate.addresses).1 =
      (heldBy keys candidate.addresses).1 := by
  rw [heldBy_eq_length_filter, heldBy_eq_length_filter, KeySet.toList_difference,
    List.filter_filter]
  congr 1
  apply List.filter_congr
  intro key member
  rw [Bool.and_eq_left_iff_imp, Bool.not_eq_true', ← Bool.not_eq_true, List.contains_iff_mem,
    List.contains_iff_mem, ← KeySet.mem_def, ← KeySet.mem_def, faithful, KeySet.mem_ofList,
    LookupTable.addressUnion, KeySet.mem_ofList, List.mem_flatMap]
  rintro held ⟨table, listed, inTable⟩
  exact apart table listed key member held inTable

namespace Search

/-- A table that finds two keys makes the choice of tables apart from it smaller. -/
theorem sizeWith_cons_lt {candidate : Candidate} {tables : List LookupTable}
    (faithful : candidate.Faithful)
    (apart : ∀ table ∈ tables, LookupTable.Apart search.remaining candidate.table table)
    (two : 2 ≤ (heldBy search.remaining candidate.addresses).1) :
    search.sizeWith fixed (candidate.table :: tables) < search.sizeWith fixed tables := by
  have swap : search.remaining.difference
      (LookupTable.addressUnion (candidate.table :: tables)) =
      (search.remaining.difference (LookupTable.addressUnion tables)).difference
        candidate.addresses := by
    apply KeySet.ext
    intro key
    rw [difference_addressUnion_cons faithful]
    simp only [KeySet.mem_difference]
    exact and_right_comm
  have total := heldBy_add_missing
    (search.remaining.difference (LookupTable.addressUnion tables)) candidate.addresses
  rw [← heldBy_difference_of_apart faithful apart] at two
  rw [sizeWith, sizeWith, swap, List.length_cons, Int.natCast_succ, ← Int.add_assoc]
  apply totalSize_lt_of_two_le <;> omega

end Search

/-- What is taken out of a pool in two parts is taken out of one of them. -/
theorem exists_rest_of_perm {α : Type} {pool others chosen left : List α} {taken : α}
    (order : pool.Perm (taken :: others)) (split : pool.Perm (chosen ++ left)) :
    (∃ rest, chosen.Perm (taken :: rest) ∧ others.Perm (rest ++ left)) ∨
      ∃ rest, others.Perm (chosen ++ rest) := by
  have whole := order.symm.trans split
  rcases List.mem_append.1 (whole.mem_iff.1 List.mem_cons_self) with inChosen | inLeft
  · obtain ⟨front, back, rfl⟩ := List.append_of_mem inChosen
    rw [List.append_assoc, List.cons_append] at whole
    have rest := (whole.trans List.perm_middle).cons_inv
    rw [← List.append_assoc] at rest
    exact Or.inl ⟨front ++ back, List.perm_middle, rest⟩
  · obtain ⟨front, back, rfl⟩ := List.append_of_mem inLeft
    rw [← List.append_assoc] at whole
    have rest := (whole.trans List.perm_middle).cons_inv
    rw [List.append_assoc] at rest
    exact Or.inr ⟨front ++ back, rest⟩

/-- When the tables of a pool share none of the remaining keys, the search fits whenever some choice of
tables from the pool does. -/
theorem size_searchTables_le_of_apart (faithful : ∀ candidate ∈ pool, candidate.Faithful)
    (sized : search.Sized fixed)
    (apart : pool.Pairwise fun first second =>
      LookupTable.Apart search.remaining first.table second.table)
    (split : pool.Perm (chosen ++ left))
    (fits : search.sizeWith fixed (chosen.map (·.table)) ≤ maxTransactionSize) :
    (searchTables fixed search pool).size ≤ maxTransactionSize := by
  fun_induction searchTables fixed search pool generalizing chosen left with
  | case1 search pool trial found =>
      simpa [Search.fits] using List.find?_some found
  | case2 search pool _ none =>
      -- No candidate shrinks the transaction, so the choice does not either.
      refine Int.le_trans (Search.size_le_sizeWith sized ?_ ?_) fits
      · exact fun candidate member =>
          faithful candidate (split.mem_iff.2 (List.mem_append_left _ member))
      · intro candidate member
        have inPool := split.mem_iff.2 (List.mem_append_left left member)
        exact le_of_leastBelow_eq_none none _ (List.mem_map_of_mem inPool)
  | case3 search pool _ trial others found _ ih =>
      have order := perm_of_cheapest found
      have member := (leastBelow_perm found).mem_iff.2 List.mem_cons_self
      obtain ⟨inPool, committed⟩ := Search.mem_trials member
      have honest := faithful trial.1 inPool
      have symmetric : ∀ {first second : Candidate},
          LookupTable.Apart search.remaining first.table second.table →
            LookupTable.Apart search.remaining second.table first.table :=
        fun unshared => unshared.symm
      obtain ⟨here, later⟩ := List.pairwise_cons.1 ((order.pairwise_iff symmetric).1 apart)
      have laterFaithful : ∀ candidate ∈ others.map Prod.fst, candidate.Faithful :=
        fun candidate listed => faithful candidate (order.mem_iff.2 (List.mem_cons_of_mem _ listed))
      have laterApart : (others.map Prod.fst).Pairwise fun first second =>
          LookupTable.Apart trial.2.remaining first.table second.table := by
        rw [committed]
        exact later.imp fun unshared =>
          unshared.mono fun _ remains => (KeySet.mem_difference.1 remains).1
      have sizedLater : trial.2.Sized fixed := committed ▸ Search.sized_commit trial.1
      rcases exists_rest_of_perm order split with ⟨rest, holds, splitLater⟩ | ⟨rest, splitLater⟩
      · -- The choice holds the committed table: the rest of it is a choice for what is left.
        refine ih laterFaithful sizedLater laterApart splitLater ?_
        rw [committed, Search.sizeWith_commit honest, ← List.map_cons]
        exact Search.sizeWith_perm (holds.map _) ▸ fits
      · -- The choice leaves the committed table out, and would be smaller with it.
        refine ih laterFaithful sizedLater laterApart splitLater ?_
        rw [committed, Search.sizeWith_commit honest]
        have smaller := leastBelow_lt found
        rw [committed, Search.commit_lt_iff sized] at smaller
        refine Int.le_trans (Int.le_of_lt (Search.sizeWith_cons_lt honest ?_ smaller)) fits
        intro table listed
        obtain ⟨candidate, inChosen, rfl⟩ := List.mem_map.1 listed
        exact here candidate (splitLater.mem_iff.2 (List.mem_append_left _ inChosen))

/-! ### Estimates -/

namespace Draft

/-- The search for the tables of a draft, before any table is committed. -/
def startSearch (draft : Draft) : Search :=
  let loadable := loadableKeys draft.instructions draft.payer
  Search.start (totalSize (fixedPart draft.instructions draft.payer) 0 0 loadable.size) loadable

/-- The estimated size of a draft with some tables, whether or not the search would choose them. -/
def sizeWith (draft : Draft) (tables : List LookupTable) : Int :=
  draft.startSearch.sizeWith (fixedPart draft.instructions draft.payer) tables

/-- The size without tables is that of the plain transaction. -/
theorem sizeWith_nil (draft : Draft) :
    draft.sizeWith [] = totalSize (fixedPart draft.instructions draft.payer) 0 0
      (loadableKeys draft.instructions draft.payer).size := by
  have sized : draft.startSearch.Sized (fixedPart draft.instructions draft.payer) := rfl
  exact Search.sizeWith_nil sized

/-- The size with some tables counts the keys of the draft, and those that are stored a second time. -/
theorem sizeWith_eq (draft : Draft) (tables : List LookupTable) :
    draft.sizeWith tables = compactLength (draft.keys.toList.filter draft.signs).length +
      64 * (draft.keys.toList.filter draft.signs).length + 36 +
      compactLength draft.instructions.length + bodySize draft.instructions + 1 +
      34 * tables.length + draft.keys.size + compactLength (draft.storedWith tables).length +
      31 * (draft.storedWith tables).length := by
  have keys := size_storedKeys_add_size_loadableKeys draft
  have stored := length_storedWith draft tables
  have signers := congrArg List.length (toList_signerKeys draft)
  rw [← KeySet.size] at signers
  have total : ((storedKeys draft.instructions draft.payer).size : Int) +
      ((loadableKeys draft.instructions draft.payer).difference
        (LookupTable.addressUnion tables)).size = (draft.storedWith tables).length := by
    omega
  simp only [sizeWith, Search.sizeWith, startSearch, Search.start, totalSize, fixedPart, signers, total,
    lookupTableOverhead, keyLength, signatureLength, headerLength, blockhashLength, versionLength,
    List.length_nil]
  omega

/-- With the same tables a draft that asks for no more is no larger. -/
theorem Within.sizeWith_le {small large : Draft} (within : small.Within large)
    (tables : List LookupTable) : small.sizeWith tables ≤ large.sizeWith tables := by
  have keys := within.size_keys_le
  have signers := within.length_signers_le
  have count := within.count
  have body := within.body
  have stored : (small.storedWith tables).length ≤ (large.storedWith tables).length :=
    within.length_storedWith_le
  have storedCount := compactLength_mono (Int.ofNat_le.2 stored)
  have signerCount := compactLength_mono (Int.ofNat_le.2 signers)
  have instructionCount := compactLength_mono (Int.ofNat_le.2 count)
  rw [sizeWith_eq, sizeWith_eq]
  omega

/-- Every estimate is the size with some choice of tables from the pool. -/
theorem exists_choice (draft : Draft) (faithful : ∀ candidate ∈ pool, candidate.Faithful) :
    ∃ chosen left, pool.Perm (chosen ++ left) ∧
      (estimateSize draft.instructions draft.payer pool).size =
        draft.sizeWith (chosen.map (·.table)) := by
  simp only [estimateSize]
  split
  · refine ⟨[], pool, List.Perm.refl pool, ?_⟩
    rw [List.map_nil, sizeWith_nil]
  · next search =>
      simp only [not_or, Int.not_le] at search
      have books := (Search.Books.start _ _).searchTables faithful search.1
      obtain ⟨chosen, left, split, tables⟩ := searchTables_chosen
        (fixedPart draft.instructions draft.payer) draft.startSearch pool
      exact ⟨chosen, left, split,
        (Search.size_eq_sizeWith_of_books books).trans (congrArg draft.sizeWith tables)⟩

/-- When no two tables share an account of a draft that a table may load, its estimate is within the
limit whenever its size with some choice of tables is. -/
theorem estimateSize_le_of_choice (draft : Draft)
    (faithful : ∀ candidate ∈ pool, candidate.Faithful)
    (apart : pool.Pairwise fun first second =>
      LookupTable.Apart (loadableKeys draft.instructions draft.payer) first.table second.table)
    (split : pool.Perm (chosen ++ left)) (few : (draft.keys.size : Int) ≤ maxUniqueKeys)
    (fits : draft.sizeWith (chosen.map (·.table)) ≤ maxTransactionSize) :
    (estimateSize draft.instructions draft.payer pool).size ≤ maxTransactionSize := by
  have keys := size_storedKeys_add_size_loadableKeys draft
  simp only [estimateSize]
  split
  · next direct =>
      rcases direct with small | empty | crowded
      · exact small
      · -- Without tables the only choice is that of none.
        rw [List.isEmpty_iff] at empty
        subst empty
        obtain ⟨rfl, _⟩ := List.append_eq_nil_iff.1 (List.nil_perm.1 split)
        exact draft.sizeWith_nil ▸ fits
      · simp only [fixedPart] at crowded
        omega
  · exact size_searchTables_le_of_apart faithful rfl apart split fits

end Draft

end SolanaTransactions
