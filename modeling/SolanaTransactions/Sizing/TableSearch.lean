/-
Module: SolanaTransactions.Sizing.TableSearch
Purpose: The size of a transaction that uses lookup tables, and the greedy choice of tables.
Main exports:
  compactLength, FixedPart, totalSize, Candidate, Search, Search.commit, leastBelow,
  searchTables, Estimate
-/
import SolanaTransactions.KeySet
import SolanaTransactions.Limits
import SolanaTransactions.LookupTable

namespace SolanaTransactions

/-!
A transaction that is too large may name some of its accounts through lookup
tables: a table costs a fixed overhead, and every account found in it costs one
index byte in place of its key.  The search commits one table after the other.
It stops with the first table that brings the transaction within the limit;
while there is none it commits the table that shrinks the transaction most, and
it gives up when no table shrinks it.
-/

/-- How many bytes the compact form of a count takes, for the counts that a transaction within the
size limit can hold. -/
def compactLength (count : Int) : Int := if count > oneByteCountMax then 2 else 1

/-- The part of a transaction that no lookup table changes. -/
structure FixedPart where
  /-- The bytes of everything but the keys and the tables. -/
  bytes : Int
  /-- The number of keys that have to be stored in full. -/
  keys : Int
deriving DecidableEq, Inhabited, Repr

/-- The serialized size of a transaction with some tables, some accounts loaded through them and
some accounts left to be stored in full. -/
def totalSize (fixed : FixedPart) (tables loaded remaining : Int) : Int :=
  let stored := fixed.keys + remaining
  fixed.bytes + lookupTableOverhead * tables + loaded + compactLength stored + stored * keyLength

/-- How many of the keys a set of addresses holds, and the keys that it does not hold. -/
def heldBy (keys addresses : KeySet) : Nat × KeySet :=
  let missing := keys.difference addresses
  (keys.size - missing.size, missing)

/-- A lookup table with the set of its addresses. -/
structure Candidate where
  addresses : KeySet
  table : LookupTable

/-- A lookup table as a candidate. -/
def Candidate.ofTable (table : LookupTable) : Candidate := ⟨KeySet.ofList table.addresses, table⟩

/-- The size of a transaction, the tables chosen for it and the number of its distinct keys. -/
structure Estimate where
  size : Int
  tables : List LookupTable
  uniqueKeys : Int
deriving DecidableEq, Inhabited, Repr

/-- The tables committed so far and what is left to find in further ones. -/
structure Search where
  size : Int
  /-- The keys that no committed table holds. -/
  remaining : KeySet
  /-- The number of keys found in committed tables. -/
  loaded : Int
  /-- The committed tables, in the order of their commitment. -/
  tables : List LookupTable

namespace Search

/-- The search before any table is committed. -/
def start (size : Int) (keys : KeySet) : Search := ⟨size, keys, 0, []⟩

/-- The search after one more table is committed. -/
def commit (fixed : FixedPart) (search : Search) (candidate : Candidate) : Search :=
  let (held, missing) := heldBy search.remaining candidate.addresses
  let loaded := search.loaded + held
  { size := totalSize fixed (search.tables.length + 1) loaded missing.size
    remaining := missing
    loaded := loaded
    tables := search.tables ++ [candidate.table] }

/-- Whether the transaction is within the size limit. -/
def fits (search : Search) : Bool := search.size ≤ maxTransactionSize

/-- What the search has found out about the transaction. -/
def estimate (fixed : FixedPart) (search : Search) : Estimate :=
  ⟨search.size, search.tables, fixed.keys + search.loaded + search.remaining.size⟩

end Search

/-- The earliest of the cheapest elements that cost less than a bound, and the other elements in
their order. -/
def leastBelow {α : Type} (cost : α → Int) (bound : Int) : List α → Option (α × List α)
  | [] => none
  | head :: rest =>
      if cost head < bound then
        match leastBelow cost (cost head) rest with
        | some (cheapest, others) => some (cheapest, head :: others)
        | none => some (head, rest)
      else
        (leastBelow cost bound rest).map fun (cheapest, others) => (cheapest, head :: others)

theorem leastBelow_length {α : Type} {cost : α → Int} {bound : Int} {elements : List α}
    {cheapest : α} {others : List α}
    (found : leastBelow cost bound elements = some (cheapest, others)) :
    others.length + 1 = elements.length := by
  induction elements generalizing bound cheapest others with
  | nil => simp [leastBelow] at found
  | cons head rest ih =>
      simp only [leastBelow] at found
      split at found
      · split at found
        · next inner =>
          simp only [Option.some.injEq, Prod.mk.injEq] at found
          obtain ⟨rfl, rfl⟩ := found
          simp [ih inner]
        · simp only [Option.some.injEq, Prod.mk.injEq] at found
          obtain ⟨rfl, rfl⟩ := found
          simp
      · simp only [Option.map_eq_some_iff, Prod.mk.injEq] at found
        obtain ⟨⟨inner, remainder⟩, later, rfl, rfl⟩ := found
        simp [ih later]

/-- Every candidate of a pool with the search that committing it leads to. -/
def Search.trials (fixed : FixedPart) (search : Search) (pool : List Candidate) :
    List (Candidate × Search) :=
  pool.map fun candidate => (candidate, search.commit fixed candidate)

@[simp] theorem Search.length_trials (fixed : FixedPart) (search : Search)
    (pool : List Candidate) : (search.trials fixed pool).length = pool.length := by
  simp [Search.trials]

/-- Commit tables from a pool until the transaction fits or no table shrinks it. -/
def searchTables (fixed : FixedPart) (search : Search) (pool : List Candidate) : Search :=
  match (search.trials fixed pool).find? fun trial => trial.2.fits with
  | some trial => trial.2
  | none =>
      match found : leastBelow (fun trial => trial.2.size) search.size
          (search.trials fixed pool) with
      | none => search
      | some (trial, others) =>
          have fewer : others.length < pool.length := by
            have shorter := leastBelow_length found
            rw [Search.length_trials] at shorter
            omega
          searchTables fixed trial.2 (others.map Prod.fst)
termination_by pool.length
decreasing_by
  simpa using fewer

/-- The tables that the greedy search chooses for a transaction of a given size, and the size that
they bring it to. -/
def chooseTables (fixed : FixedPart) (size : Int) (keys : KeySet) (pool : List Candidate) :
    Estimate :=
  (searchTables fixed (Search.start size keys) pool).estimate fixed

end SolanaTransactions
