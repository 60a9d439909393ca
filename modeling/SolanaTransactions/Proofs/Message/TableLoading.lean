/-
Module: SolanaTransactions.Proofs.Message.TableLoading
Purpose: Loading keys through tables one after the other, in closed form.
Main exports:
  Draft.Loads, Draft.loadTables_left, Draft.loadTables_count, Draft.loadTables_tables,
  Draft.exists_loadTables
-/
import Mathlib.Algebra.GroupWithZero.Nat
import Mathlib.Data.List.Basic
import SolanaTransactions.Message.Compile
import SolanaTransactions.Proofs.Traversal

namespace SolanaTransactions

/-- How many keys one table loads. -/
def LoadedTable.count (loaded : LoadedTable) : Nat :=
  loaded.writable.length + loaded.readonly.length

theorem LoadedTable.isEmpty_iff_count_eq_zero (loaded : LoadedTable) :
    (loaded.writable.isEmpty && loaded.readonly.isEmpty) = true ↔ loaded.count = 0 := by
  rw [Bool.and_eq_true, List.isEmpty_iff_length_eq_zero, List.isEmpty_iff_length_eq_zero, count,
    Nat.add_eq_zero_iff]

namespace Draft

variable {draft : Draft}

/-- Whether some of several lookup tables loads a key. -/
def loadsFromAny (draft : Draft) (tables : List LookupTable) (key : Key) : Bool :=
  tables.any fun table => draft.loadsFrom table key

/-- What one table loads from a list of keys, and the indexes under which it does. -/
structure Loads (draft : Draft) (table : LookupTable) (keys : List Key) (loaded : LoadedTable) :
    Prop where
  tableKey : loaded.lookup.table = table.key
  writable : loaded.writable = (keys.filter (draft.loadsFrom table)).filter draft.writes
  readonly : loaded.readonly =
    (keys.filter (draft.loadsFrom table)).filter fun key => !draft.writes key
  writableIndexes : loaded.writable.mapM table.indexOf = .ok loaded.lookup.writable
  readonlyIndexes : loaded.readonly.mapM table.indexOf = .ok loaded.lookup.readonly

theorem loads_of_loadTable {table : LookupTable} {keys : List Key} {loaded : LoadedTable}
    (loading : draft.loadTable table keys = .ok loaded) : draft.Loads table keys loaded := by
  rw [loadTable, bind_eq_ok_iff] at loading
  obtain ⟨writableIndexes, writable, rest⟩ := loading
  obtain ⟨readonlyIndexes, readonly, done⟩ := bind_eq_ok_iff.1 rest
  obtain rfl := pure_eq_ok_iff.1 done
  exact ⟨rfl, rfl, rfl, writable, readonly⟩

theorem Loads.count_eq {table : LookupTable} {keys : List Key} {loaded : LoadedTable}
    (loads : draft.Loads table keys loaded) :
    loaded.count = (keys.filter (draft.loadsFrom table)).length := by
  rw [LoadedTable.count, loads.writable, loads.readonly]
  exact (List.length_eq_length_filter_add draft.writes).symm

theorem Loads.length_lookup {table : LookupTable} {keys : List Key} {loaded : LoadedTable}
    (loads : draft.Loads table keys loaded) :
    loaded.lookup.writable.length + loaded.lookup.readonly.length = loaded.count := by
  rw [LoadedTable.count, length_of_mapM_eq_ok loads.writableIndexes,
    length_of_mapM_eq_ok loads.readonlyIndexes]

/-- A table that loads nothing is dropped, any other one comes first. -/
theorem loadTables_cons_eq_ok {table : LookupTable} {tables : List LookupTable} {keys left : List Key}
    {loaded : List LoadedTable}
    (loading : draft.loadTables (table :: tables) keys = .ok (loaded, left)) :
    ∃ first later, draft.Loads table keys first ∧
      draft.loadTables tables (keys.filter fun key => !draft.loadsFrom table key) =
        .ok (later, left) ∧
      loaded = if first.count = 0 then later else first :: later := by
  rw [loadTables, bind_eq_ok_iff] at loading
  obtain ⟨first, firstLoading, rest⟩ := loading
  obtain ⟨⟨later, remaining⟩, laterLoading, done⟩ := bind_eq_ok_iff.1 rest
  refine ⟨first, later, loads_of_loadTable firstLoading, ?_⟩
  dsimp only at done
  split at done
  · next unused =>
      obtain ⟨rfl, rfl⟩ := Prod.mk.inj (pure_eq_ok_iff.1 done)
      exact ⟨laterLoading, by rw [if_pos (first.isEmpty_iff_count_eq_zero.1 unused)]⟩
  · next used =>
      obtain ⟨rfl, rfl⟩ := Prod.mk.inj (pure_eq_ok_iff.1 done)
      exact ⟨laterLoading, by rw [if_neg (mt first.isEmpty_iff_count_eq_zero.2 used)]⟩

/-- What is left are the keys that no table loads. -/
theorem loadTables_left {tables : List LookupTable} {keys left : List Key}
    {loaded : List LoadedTable} (loading : draft.loadTables tables keys = .ok (loaded, left)) :
    left = keys.filter fun key => !draft.loadsFromAny tables key := by
  induction tables generalizing keys loaded with
  | nil =>
      obtain ⟨_, rfl⟩ := Prod.mk.inj (Except.ok.inj loading)
      simp [loadsFromAny]
  | cons table tables ih =>
      obtain ⟨first, later, _, laterLoading, _⟩ := loadTables_cons_eq_ok loading
      rw [ih laterLoading, List.filter_filter]
      apply List.filter_congr
      intro key _
      simp only [loadsFromAny, List.any_cons, Bool.not_or]
      exact Bool.and_comm _ _

/-- Every key is loaded by exactly one table or left. -/
theorem loadTables_count {tables : List LookupTable} {keys left : List Key}
    {loaded : List LoadedTable} (loading : draft.loadTables tables keys = .ok (loaded, left)) :
    (loaded.map LoadedTable.count).sum + left.length = keys.length := by
  induction tables generalizing keys loaded with
  | nil =>
      obtain ⟨rfl, rfl⟩ := Prod.mk.inj (Except.ok.inj loading)
      simp
  | cons table tables ih =>
      obtain ⟨first, later, loads, laterLoading, rfl⟩ := loadTables_cons_eq_ok loading
      have rest := ih laterLoading
      have split := List.length_eq_length_filter_add (l := keys) (draft.loadsFrom table)
      have count := loads.count_eq
      split
      · omega
      · simp only [List.map_cons, List.sum_cons]
        omega

/-- Every listed table loads something, so there are no more of them than loaded keys. -/
theorem loadTables_length_le {tables : List LookupTable} {keys left : List Key}
    {loaded : List LoadedTable} (loading : draft.loadTables tables keys = .ok (loaded, left)) :
    loaded.length ≤ (loaded.map LoadedTable.count).sum := by
  induction tables generalizing keys loaded with
  | nil =>
      obtain ⟨rfl, _⟩ := Prod.mk.inj (Except.ok.inj loading)
      exact Nat.le_refl 0
  | cons table tables ih =>
      obtain ⟨first, later, loads, laterLoading, rfl⟩ := loadTables_cons_eq_ok loading
      have rest := ih laterLoading
      split
      · exact rest
      · next used =>
          rw [List.length_cons, List.map_cons, List.sum_cons]
          omega

/-- The table through which a key is loaded: the first one that loads it. -/
def loader? (draft : Draft) (tables : List LookupTable) (key : Key) : Option LookupTable :=
  tables.find? fun table => draft.loadsFrom table key

theorem loader?_cons_of_loads {table : LookupTable} (tables : List LookupTable) {key : Key}
    (loads : draft.loadsFrom table key = true) :
    draft.loader? (table :: tables) key = some table := by
  rw [loader?, List.find?_cons, loads]

theorem loader?_cons_of_not_loads {table : LookupTable} (tables : List LookupTable) {key : Key}
    (unloaded : draft.loadsFrom table key = false) :
    draft.loader? (table :: tables) key = draft.loader? tables key := by
  rw [loader?, List.find?_cons, unloaded]
  rfl

theorem loader?_eq_none_iff {tables : List LookupTable} {key : Key} :
    draft.loader? tables key = none ↔ draft.loadsFromAny tables key = false := by
  rw [loader?, List.find?_eq_none, loadsFromAny, List.any_eq_false]

theorem Loads.mem_writable_iff {table : LookupTable} {keys : List Key} {loaded : LoadedTable}
    (loads : draft.Loads table keys loaded) {key : Key} : key ∈ loaded.writable ↔
      (key ∈ keys ∧ draft.loadsFrom table key = true) ∧ draft.writes key = true := by
  rw [loads.writable, List.mem_filter, List.mem_filter]

theorem Loads.mem_readonly_iff {table : LookupTable} {keys : List Key} {loaded : LoadedTable}
    (loads : draft.Loads table keys loaded) {key : Key} : key ∈ loaded.readonly ↔
      (key ∈ keys ∧ draft.loadsFrom table key = true) ∧ draft.writes key = false := by
  rw [loads.readonly, List.mem_filter, List.mem_filter, Bool.not_eq_true']

/-- An entry holds keys that its table is the first to load, writable and read-only ones apart. -/
theorem loads_of_mem_loadTables {tables : List LookupTable} {keys left : List Key}
    {loaded : List LoadedTable} (loading : draft.loadTables tables keys = .ok (loaded, left)) :
    ∀ entry ∈ loaded, ∃ table ∈ tables, (∃ rest, draft.Loads table rest entry) ∧
      (∀ key ∈ entry.writable ++ entry.readonly,
        key ∈ keys ∧ draft.loader? tables key = some table) := by
  induction tables generalizing keys loaded with
  | nil =>
      obtain ⟨rfl, _⟩ := Prod.mk.inj (Except.ok.inj loading)
      simp
  | cons table tables ih =>
      obtain ⟨first, later, loads, laterLoading, rfl⟩ := loadTables_cons_eq_ok loading
      have inFirst : ∀ key ∈ first.writable ++ first.readonly,
          key ∈ keys ∧ draft.loadsFrom table key = true := by
        intro key member
        rcases List.mem_append.1 member with writable | readonly
        · exact (loads.mem_writable_iff.1 writable).1
        · exact (loads.mem_readonly_iff.1 readonly).1
      have inLater : ∀ entry ∈ later, ∃ other ∈ table :: tables,
          (∃ rest, draft.Loads other rest entry) ∧
            (∀ key ∈ entry.writable ++ entry.readonly,
              key ∈ keys ∧ draft.loader? (table :: tables) key = some other) := by
        intro entry member
        obtain ⟨other, listed, entryLoads, first⟩ := ih laterLoading entry member
        refine ⟨other, List.mem_cons_of_mem table listed, entryLoads, ?_⟩
        intro key loadedKey
        obtain ⟨remaining, loader⟩ := first key loadedKey
        obtain ⟨inKeys, unloaded⟩ := List.mem_filter.1 remaining
        rw [Bool.not_eq_true'] at unloaded
        rw [loader?_cons_of_not_loads tables unloaded]
        exact ⟨inKeys, loader⟩
      intro entry member
      split at member
      · exact inLater entry member
      · rcases List.mem_cons.1 member with rfl | listed
        · refine ⟨table, List.mem_cons_self, ⟨keys, loads⟩, ?_⟩
          intro key loadedKey
          obtain ⟨inKeys, found⟩ := inFirst key loadedKey
          exact ⟨inKeys, loader?_cons_of_loads tables found⟩
        · exact inLater entry listed

/-- Every key is left or stands in some entry. -/
theorem mem_left_or_loaded {tables : List LookupTable} {keys left : List Key}
    {loaded : List LoadedTable} (loading : draft.loadTables tables keys = .ok (loaded, left)) :
    ∀ key ∈ keys, key ∈ left ∨ ∃ entry ∈ loaded, key ∈ entry.writable ∨ key ∈ entry.readonly := by
  induction tables generalizing keys loaded with
  | nil =>
      obtain ⟨_, rfl⟩ := Prod.mk.inj (Except.ok.inj loading)
      exact fun key member => Or.inl member
  | cons table tables ih =>
      obtain ⟨first, later, loads, laterLoading, rfl⟩ := loadTables_cons_eq_ok loading
      intro key member
      cases found : draft.loadsFrom table key with
      | false =>
          have remains : key ∈ keys.filter fun key => !draft.loadsFrom table key :=
            List.mem_filter.2 ⟨member, by rw [found]; rfl⟩
          rcases ih laterLoading key remains with inLeft | ⟨entry, listed, inEntry⟩
          · exact Or.inl inLeft
          · refine Or.inr ⟨entry, ?_, inEntry⟩
            split
            · exact listed
            · exact List.mem_cons_of_mem first listed
      | true =>
          have inFirst : key ∈ first.writable ∨ key ∈ first.readonly := by
            rw [loads.mem_writable_iff, loads.mem_readonly_iff]
            cases draft.writes key <;> simp [member, found]
          have used : first.count ≠ 0 := by
            rw [loads.count_eq]
            exact Nat.ne_of_gt (List.length_pos_of_mem (List.mem_filter.2 ⟨member, found⟩))
          rw [if_neg used]
          exact Or.inr ⟨first, List.mem_cons_self, inFirst⟩

/-- The index lists of the lookups are as long as the lists of keys behind them. -/
theorem loadTables_length_lookup {tables : List LookupTable} {keys left : List Key}
    {loaded : List LoadedTable} (loading : draft.loadTables tables keys = .ok (loaded, left)) :
    ∀ entry ∈ loaded,
      entry.lookup.writable.length + entry.lookup.readonly.length = entry.count := by
  induction tables generalizing keys loaded with
  | nil =>
      obtain ⟨rfl, _⟩ := Prod.mk.inj (Except.ok.inj loading)
      simp
  | cons table tables ih =>
      obtain ⟨first, later, loads, laterLoading, rfl⟩ := loadTables_cons_eq_ok loading
      intro entry member
      split at member
      · exact ih laterLoading entry member
      · rcases List.mem_cons.1 member with rfl | inLater
        · exact loads.length_lookup
        · exact ih laterLoading entry inLater

/-- Each table loads a key that no earlier one loads. -/
def EachLoads (draft : Draft) (tables : List LookupTable) (keys : List Key) : Prop :=
  ∀ earlier table later, tables = earlier ++ table :: later →
    ∃ key ∈ keys, draft.loadsFrom table key = true ∧ draft.loadsFromAny earlier key = false

theorem EachLoads.tail {table : LookupTable} {tables : List LookupTable} {keys : List Key}
    (each : draft.EachLoads (table :: tables) keys) :
    draft.EachLoads tables (keys.filter fun key => !draft.loadsFrom table key) := by
  intro earlier chosen later split
  obtain ⟨key, member, loads, unloaded⟩ :=
    each (table :: earlier) chosen later (by rw [split, List.cons_append])
  simp only [loadsFromAny, List.any_cons, Bool.or_eq_false_iff] at unloaded
  exact ⟨key, List.mem_filter.2 ⟨member, by rw [unloaded.1]; rfl⟩, loads, unloaded.2⟩

/-- When each table loads something, none is dropped. -/
theorem loadTables_tables {tables : List LookupTable} {keys left : List Key}
    {loaded : List LoadedTable} (each : draft.EachLoads tables keys)
    (loading : draft.loadTables tables keys = .ok (loaded, left)) :
    loaded.map (fun entry => entry.lookup.table) = tables.map (·.key) := by
  induction tables generalizing keys loaded with
  | nil =>
      obtain ⟨rfl, _⟩ := Prod.mk.inj (Except.ok.inj loading)
      rfl
  | cons table tables ih =>
      obtain ⟨first, later, loads, laterLoading, rfl⟩ := loadTables_cons_eq_ok loading
      obtain ⟨key, member, found, _⟩ := each [] table tables rfl
      have used : first.count ≠ 0 := by
        rw [loads.count_eq]
        exact Nat.ne_of_gt (List.length_pos_of_mem (List.mem_filter.2 ⟨member, found⟩))
      rw [if_neg used, List.map_cons, List.map_cons, loads.tableKey, ih each.tail laterLoading]

/-- Tables of at most 256 addresses load whatever they hold. -/
theorem exists_loadTable (draft : Draft) {table : LookupTable}
    (small : table.addresses.length ≤ 256) (keys : List Key) :
    ∃ loaded, draft.loadTable table keys = .ok loaded := by
  have indexed (test : Key → Bool) :
      ∃ indexes, ((keys.filter (draft.loadsFrom table)).filter test).mapM table.indexOf =
        .ok indexes := by
    apply exists_mapM_eq_ok
    intro key member
    have held := (List.mem_filter.1 (List.mem_filter.1 member).1).2
    simp only [loadsFrom, Bool.and_eq_true, List.contains_iff_mem] at held
    have index := List.idxOf_lt_length_of_mem held.2
    rw [LookupTable.indexOf]
    exact ⟨_, if_pos (by omega)⟩
  obtain ⟨writableIndexes, writable⟩ := indexed draft.writes
  obtain ⟨readonlyIndexes, readonly⟩ := indexed fun key => !draft.writes key
  rw [loadTable]
  exact ⟨_, bind_eq_ok_iff.2 ⟨_, writable, bind_eq_ok_iff.2 ⟨_, readonly, rfl⟩⟩⟩

theorem exists_loadTables (draft : Draft) {tables : List LookupTable}
    (small : ∀ table ∈ tables, table.addresses.length ≤ 256) (keys : List Key) :
    ∃ loaded left, draft.loadTables tables keys = .ok (loaded, left) := by
  induction tables generalizing keys with
  | nil => exact ⟨[], keys, rfl⟩
  | cons table tables ih =>
      obtain ⟨first, firstLoading⟩ :=
        exists_loadTable draft (small table List.mem_cons_self) keys
      obtain ⟨later, left, laterLoading⟩ :=
        ih (fun other member => small other (List.mem_cons_of_mem table member))
          (keys.filter fun key => !draft.loadsFrom table key)
      rw [loadTables, firstLoading]
      simp only [bind, Except.bind, laterLoading, pure, Except.pure]
      split
      · exact ⟨later, left, rfl⟩
      · exact ⟨first :: later, left, rfl⟩

end Draft

end SolanaTransactions
