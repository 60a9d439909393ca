/-
Module: SolanaTransactions.Proofs.Sizing.TableSearch
Purpose: The books that the table search keeps, from its start to its result.
Main exports:
  le_of_leastBelow_eq_none, leastBelow_split, leastBelow_lt, leastBelow_perm,
  searchTables_invariant, Search.Books, Search.Books.commit, chooseTables_books
-/
import SolanaTransactions.Proofs.KeySet
import SolanaTransactions.Proofs.Sizing.CompactLength

namespace SolanaTransactions

/-!
The search changes its state only by a commit, and commits only a table that
makes the transaction smaller.  `searchTables_invariant` says so once; what a
productive commit keeps therefore holds of the result.  `Search.Books` is such
an invariant: it gives the remaining keys, the counts and the size in closed
form over the committed tables, without the order of the bookkeeping.
-/

/-! ### The cheapest element below a bound -/

/-- Nothing is found when nothing costs less than the bound. -/
theorem le_of_leastBelow_eq_none {α : Type} {cost : α → Int} {bound : Int} {elements : List α}
    (none : leastBelow cost bound elements = none) :
    ∀ element ∈ elements, bound ≤ cost element := by
  induction elements generalizing bound with
  | nil => exact fun _ absent => nomatch absent
  | cons head rest ih =>
      simp only [leastBelow] at none
      split at none
      · split at none <;> contradiction
      · next dear =>
          rw [Option.map_eq_none_iff] at none
          exact List.forall_mem_cons.2 ⟨Int.not_lt.1 dear, ih none⟩

/-- The head is the cheapest element, or the cheapest one stands in the rest. -/
theorem leastBelow_cons_eq_some {α : Type} {cost : α → Int} {bound : Int} {head cheapest : α}
    {rest others : List α} (found : leastBelow cost bound (head :: rest) = some (cheapest, others)) :
    (cost head < bound ∧ leastBelow cost (cost head) rest = none ∧ cheapest = head ∧
        others = rest) ∨
      ∃ inner later, inner ≤ bound ∧ inner ≤ cost head ∧
        leastBelow cost inner rest = some (cheapest, later) ∧ others = head :: later := by
  simp only [leastBelow] at found
  split at found
  · next below =>
      split at found
      · next best later inside =>
          simp only [Option.some.injEq, Prod.mk.injEq] at found
          obtain ⟨rfl, rfl⟩ := found
          exact Or.inr ⟨cost head, later, Int.le_of_lt below, Int.le_refl _, inside, rfl⟩
      · next nothing =>
          simp only [Option.some.injEq, Prod.mk.injEq] at found
          obtain ⟨rfl, rfl⟩ := found
          exact Or.inl ⟨below, nothing, rfl, rfl⟩
  · next dear =>
      simp only [Option.map_eq_some_iff, Prod.mk.injEq] at found
      obtain ⟨⟨best, later⟩, inside, rfl, rfl⟩ := found
      exact Or.inr ⟨bound, later, Int.le_refl bound, Int.not_lt.1 dear, inside, rfl⟩

/-- The cheapest element is taken out where it first stands: every element before it costs more, and
none after it costs less. -/
theorem leastBelow_split {α : Type} {cost : α → Int} {bound : Int} {elements others : List α}
    {cheapest : α} (found : leastBelow cost bound elements = some (cheapest, others)) :
    ∃ front back, elements = front ++ cheapest :: back ∧ others = front ++ back ∧
      cost cheapest < bound ∧ (∀ element ∈ front, cost cheapest < cost element) ∧
      ∀ element ∈ back, cost cheapest ≤ cost element := by
  induction elements generalizing bound others with
  | nil => simp [leastBelow] at found
  | cons head rest ih =>
      rcases leastBelow_cons_eq_some found with
        ⟨below, nothing, rfl, rfl⟩ | ⟨inner, later, lower, cheaper, inside, rfl⟩
      · exact ⟨[], others, rfl, rfl, below, List.forall_mem_nil _, le_of_leastBelow_eq_none nothing⟩
      · obtain ⟨front, back, rfl, rfl, below, dearer, rest⟩ := ih inside
        refine ⟨head :: front, back, rfl, rfl, Int.lt_of_lt_of_le below lower, ?_, rest⟩
        exact List.forall_mem_cons.2 ⟨Int.lt_of_lt_of_le below cheaper, dearer⟩

theorem leastBelow_lt {α : Type} {cost : α → Int} {bound : Int} {elements others : List α}
    {cheapest : α} (found : leastBelow cost bound elements = some (cheapest, others)) :
    cost cheapest < bound := by
  obtain ⟨_, _, _, _, below, _⟩ := leastBelow_split found
  exact below

/-- The cheapest element and the others are all elements. -/
theorem leastBelow_perm {α : Type} {cost : α → Int} {bound : Int} {elements others : List α}
    {cheapest : α} (found : leastBelow cost bound elements = some (cheapest, others)) :
    elements.Perm (cheapest :: others) := by
  obtain ⟨front, back, rfl, rfl, _⟩ := leastBelow_split found
  exact List.perm_middle

/-! ### What every run of the search keeps -/

theorem Search.mem_trials {fixed : FixedPart} {search : Search} {pool : List Candidate}
    {trial : Candidate × Search} (member : trial ∈ search.trials fixed pool) :
    trial.1 ∈ pool ∧ trial.2 = search.commit fixed trial.1 := by
  simp only [Search.trials, List.mem_map] at member
  obtain ⟨candidate, inPool, rfl⟩ := member
  exact ⟨inPool, rfl⟩

/-- What every commit keeps that shrinks the transaction holds of the result of a search that starts
above the limit. -/
theorem searchTables_invariant {fixed : FixedPart} {Good : Search → Prop} {search : Search}
    {pool : List Candidate}
    (step : ∀ current candidate, candidate ∈ pool → Good current →
      (current.commit fixed candidate).size < current.size → Good (current.commit fixed candidate))
    (good : Good search) (large : maxTransactionSize < search.size) :
    Good (searchTables fixed search pool) := by
  fun_induction searchTables fixed search pool with
  | case1 search pool trial found =>
      have fits : trial.2.size ≤ maxTransactionSize := by
        simpa [Search.fits] using List.find?_some found
      obtain ⟨inPool, committed⟩ := Search.mem_trials (List.mem_of_find?_eq_some found)
      rw [committed] at fits ⊢
      exact step search trial.1 inPool good (Int.lt_of_le_of_lt fits large)
  | case2 search pool _ _ => exact good
  | case3 search pool noneFits trial others found _ ih =>
      have order := leastBelow_perm found
      have member : trial ∈ search.trials fixed pool := order.mem_iff.2 List.mem_cons_self
      obtain ⟨inPool, committed⟩ := Search.mem_trials member
      have smaller := leastBelow_lt found
      have stillLarge : maxTransactionSize < trial.2.size := by
        simpa [Search.fits] using List.find?_eq_none.1 noneFits trial member
      apply ih
      · intro current candidate listed
        -- The next round gets candidates only; what the trials made of them is thrown away.
        obtain ⟨other, otherListed, rfl⟩ := List.mem_map.1 listed
        have otherMember := order.mem_iff.2 (List.mem_cons_of_mem trial otherListed)
        exact step current other.1 (Search.mem_trials otherMember).1
      · rw [committed] at smaller ⊢
        exact step search trial.1 inPool good smaller
      · exact stillLarge

/-! ### The books -/

/-- The addresses of several tables together. -/
def LookupTable.addressUnion (tables : List LookupTable) : KeySet :=
  KeySet.ofList (tables.flatMap (·.addresses))

/-- How many keys of a set a table holds that none of some earlier tables holds. -/
def LookupTable.freshCount (keys : KeySet) (earlier : List LookupTable) (table : LookupTable) :
    Nat :=
  (heldBy (keys.difference (addressUnion earlier)) (KeySet.ofList table.addresses)).1

/-- A table is worth its overhead when it holds at least two keys that no earlier table holds. -/
def LookupTable.AllUseful (keys : KeySet) (tables : List LookupTable) : Prop :=
  ∀ earlier table later, tables = earlier ++ table :: later → 2 ≤ freshCount keys earlier table

/-- The state of a search over a set of keys, in closed form over the committed tables. -/
structure Search.Books (fixed : FixedPart) (keys : KeySet) (search : Search) : Prop where
  remaining : search.remaining = keys.difference (LookupTable.addressUnion search.tables)
  loaded : search.loaded + search.remaining.size = keys.size
  size : search.size =
    totalSize fixed search.tables.length search.loaded search.remaining.size
  useful : LookupTable.AllUseful keys search.tables

/-- A candidate whose set of addresses is that of its table. -/
def Candidate.Faithful (candidate : Candidate) : Prop :=
  candidate.addresses = KeySet.ofList candidate.table.addresses

theorem Candidate.faithful_ofTables (tables : List LookupTable) :
    ∀ candidate ∈ tables.map Candidate.ofTable, candidate.Faithful := by
  intro candidate member
  obtain ⟨table, _, rfl⟩ := List.mem_map.1 member
  rfl

theorem LookupTable.allUseful_append {keys : KeySet} {tables : List LookupTable}
    {table : LookupTable} (useful : AllUseful keys tables)
    (fresh : 2 ≤ freshCount keys tables table) : AllUseful keys (tables ++ [table]) := by
  intro earlier chosen later split
  rcases List.eq_nil_or_concat later with rfl | ⟨front, last, rfl⟩
  · obtain ⟨rfl, single⟩ := List.append_inj' split rfl
    rw [List.singleton_inj] at single
    exact single ▸ fresh
  · rw [List.concat_eq_append, ← List.cons_append, ← List.append_assoc] at split
    exact useful earlier chosen front (List.append_inj' split rfl).1

/-- A table costs its overhead of 34 bytes and saves 31 bytes a key, and one more byte at most when
the number of stored keys falls below 128. -/
theorem two_le_of_totalSize_lt {fixed : FixedPart} {tables loaded held missing : Int}
    (nonneg : 0 ≤ held)
    (smaller : totalSize fixed (tables + 1) (loaded + held) missing <
      totalSize fixed tables loaded (held + missing)) : 2 ≤ held := by
  have after := one_le_compactLength (fixed.keys + missing)
  have before := compactLength_le_two (fixed.keys + (held + missing))
  simp only [totalSize, lookupTableOverhead, keyLength] at smaller
  omega

namespace Search.Books

variable {fixed : FixedPart} {keys : KeySet} {search : Search}

/-- The books of a search that has not committed anything. -/
theorem start (fixed : FixedPart) (keys : KeySet) :
    Books fixed keys (Search.start (totalSize fixed 0 0 keys.size) keys) where
  remaining := (KeySet.difference_ofList_nil keys).symm
  loaded := Int.zero_add _
  size := rfl
  useful := by
    intro earlier table later split
    simp [Search.start] at split

/-- A commit that shrinks the transaction keeps the books. -/
theorem commit (books : Books fixed keys search) {candidate : Candidate}
    (faithful : candidate.Faithful)
    (smaller : (search.commit fixed candidate).size < search.size) :
    Books fixed keys (search.commit fixed candidate) := by
  have total := heldBy_add_missing search.remaining candidate.addresses
  have before := books.loaded
  refine ⟨?remaining, ?loaded, ?size, ?useful⟩
  case remaining =>
    show search.remaining.difference candidate.addresses = _
    rw [books.remaining, KeySet.difference_difference, faithful, Search.commit]
    simp only [LookupTable.addressUnion, List.flatMap_append, List.flatMap_cons, List.flatMap_nil,
      List.append_nil, KeySet.ofList_append]
  case loaded =>
    show search.loaded + (heldBy search.remaining candidate.addresses).1 +
      (search.remaining.difference candidate.addresses).size = _
    omega
  case size =>
    simp [Search.commit, heldBy]
  case useful =>
    apply LookupTable.allUseful_append books.useful
    have held : 2 ≤ ((heldBy search.remaining candidate.addresses).1 : Int) := by
      apply two_le_of_totalSize_lt (Int.natCast_nonneg _)
      rw [books.size] at smaller
      rw [show (search.remaining.size : Int) = (heldBy search.remaining candidate.addresses).1 +
        (search.remaining.difference candidate.addresses).size by omega] at smaller
      exact smaller
    rw [books.remaining, faithful] at held
    exact Int.ofNat_le.1 held

/-- A search that starts above the limit ends with its books in order. -/
theorem searchTables (books : Books fixed keys search) {pool : List Candidate}
    (faithful : ∀ candidate ∈ pool, candidate.Faithful)
    (large : maxTransactionSize < search.size) :
    Books fixed keys (SolanaTransactions.searchTables fixed search pool) :=
  searchTables_invariant
    (fun _ candidate inPool good smaller => good.commit (faithful candidate inPool) smaller)
    books large

end Search.Books

/-- The greedy choice of tables is the estimate of a search with its books in order. -/
theorem chooseTables_books (fixed : FixedPart) (keys : KeySet) {pool : List Candidate}
    (faithful : ∀ candidate ∈ pool, candidate.Faithful)
    (large : maxTransactionSize < totalSize fixed 0 0 keys.size) :
    ∃ search : Search, search.Books fixed keys ∧
      chooseTables fixed (totalSize fixed 0 0 keys.size) keys pool = search.estimate fixed :=
  ⟨_, (Search.Books.start fixed keys).searchTables faithful large, rfl⟩

/-- The committed tables of a search all come from a pool. -/
def Search.DrawsFrom (pool : List Candidate) (search : Search) : Prop :=
  ∀ table ∈ search.tables, ∃ candidate ∈ pool, candidate.table = table

theorem Search.DrawsFrom.commit {fixed : FixedPart} {pool : List Candidate} {search : Search}
    {candidate : Candidate} (draws : search.DrawsFrom pool) (inPool : candidate ∈ pool) :
    (search.commit fixed candidate).DrawsFrom pool := by
  intro table member
  rcases List.mem_append.1 member with old | new
  · exact draws table old
  · exact ⟨candidate, inPool, (List.mem_singleton.1 new).symm⟩

theorem drawsFrom_searchTables {fixed : FixedPart} {size : Int} {keys : KeySet}
    {pool : List Candidate} (large : maxTransactionSize < size) :
    (searchTables fixed (Search.start size keys) pool).DrawsFrom pool := by
  have none : (Search.start size keys).DrawsFrom pool := fun table member => nomatch member
  exact searchTables_invariant (fun _ _ inPool draws _ => draws.commit inPool) none large

end SolanaTransactions
