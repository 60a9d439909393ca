/-
Module: SolanaTransactions.Proofs.Sizing.GreedySearch
Purpose: The table search keeps its books and follows the rule.
Main exports:
  TableChoice.Stands, TableChoice.exists_run_searchTables, chooseTables_keeps_books,
  chooseTables_follows_rule
-/
import SolanaTransactions.Proofs.Sizing.GreedyRule

namespace SolanaTransactions

/-!
The search carries the unused tables without their positions.  They are written
beside them here, in ascending order: what stands before a table in that list
then stands before it in the list of all tables, so the first find is the
earliest one.  Taking a table out leaves the order as it is.
-/

variable {fixed : FixedPart} {keys : KeySet} {tables : List LookupTable}

namespace TableChoice

theorem tablesAt_concat {used : List Nat} {place : Nat} {table : LookupTable}
    (present : tables[place]? = some table) :
    tablesAt tables (used ++ [place]) = tablesAt tables used ++ [table] := by
  simp [tablesAt, List.filterMap_append, present]

/-- The books of a search give the size in closed form. -/
theorem size_eq_of_books {search : Search} (books : search.Books fixed keys) :
    search.size = sizeWith fixed keys search.tables := by
  have total := keys.size_inter_add_size_difference (LookupTable.addressUnion search.tables)
  have loaded := books.loaded
  rw [books.size, sizeWith]
  simp only [books.remaining] at loaded ⊢
  congr 1
  omega

/-- One more table brings a search to the size in closed form, whether it is worth it or not. -/
theorem size_commit_of_books {search : Search} (books : search.Books fixed keys)
    (table : LookupTable) :
    (search.commit fixed (Candidate.ofTable table)).size =
      sizeWith fixed keys (search.tables ++ [table]) := by
  have total := keys.size_inter_add_size_difference
    (LookupTable.addressUnion (search.tables ++ [table]))
  have held := heldBy_add_missing search.remaining (KeySet.ofList table.addresses)
  have loaded := books.loaded
  have missing : search.remaining.difference (KeySet.ofList table.addresses) =
      keys.difference (LookupTable.addressUnion (search.tables ++ [table])) := by
    rw [books.remaining, KeySet.difference_difference]
    simp only [LookupTable.addressUnion, List.flatMap_append, List.flatMap_cons, List.flatMap_nil,
      List.append_nil, KeySet.ofList_append]
  rw [missing] at held
  simp only [Search.commit, Candidate.ofTable, heldBy, missing, sizeWith] at held ⊢
  congr 1
  · simp
  · omega

/-- A search after it takes the table of an entry, whatever its position. -/
def tried (fixed : FixedPart) (search : Search) (entry : LookupTable × Nat) : Search :=
  search.commit fixed (Candidate.ofTable entry.1)

/-- A search stands where the tables at some positions are chosen, with the unused tables and their
positions left in order. -/
structure Stands (fixed : FixedPart) (keys : KeySet) (tables : List LookupTable)
    (used : List Nat) (left : List (LookupTable × Nat)) (search : Search) : Prop where
  books : search.Books fixed keys
  chosen : search.tables = tablesAt tables used
  ascending : left.Pairwise fun first second => first.2 < second.2
  mem_left : ∀ table place, (table, place) ∈ left ↔ tables[place]? = some table ∧ place ∉ used

namespace Stands

variable {used : List Nat} {left : List (LookupTable × Nat)} {search : Search}

theorem start (fixed : FixedPart) (keys : KeySet) (tables : List LookupTable) :
    Stands fixed keys tables [] tables.zipIdx
      (Search.start (totalSize fixed 0 0 keys.size) keys) where
  books := .start fixed keys
  chosen := rfl
  ascending := by
    apply List.pairwise_map.1
    rw [List.zipIdx_map_snd]
    exact List.pairwise_lt_range'
  mem_left := by
    intro table place
    simp [List.mk_mem_zipIdx_iff_getElem?]

theorem size_eq (stands : Stands fixed keys tables used left search) :
    search.size = sizeAfter fixed keys tables used := by
  rw [size_eq_of_books stands.books, stands.chosen, sizeAfter]

theorem size_tried (stands : Stands fixed keys tables used left search)
    {entry : LookupTable × Nat} (member : entry ∈ left) :
    (tried fixed search entry).size =
      sizeAfter fixed keys tables (used ++ [entry.2]) := by
  have present := ((stands.mem_left entry.1 entry.2).1 member).1
  rw [tried, size_commit_of_books stands.books, stands.chosen, sizeAfter, tablesAt_concat present]

theorem unused (stands : Stands fixed keys tables used left search)
    {entry : LookupTable × Nat} (member : entry ∈ left) : Unused tables used entry.2 := by
  have found := (stands.mem_left entry.1 entry.2).1 member
  exact ⟨(List.getElem?_eq_some_iff.1 found.1).1, found.2⟩

/-- Every unused position is left. -/
theorem exists_entry (stands : Stands fixed keys tables used left search) {place : Nat}
    (unused : Unused tables used place) : ∃ entry ∈ left, entry.2 = place := by
  have inside := unused.inside
  have present := List.getElem?_eq_getElem inside
  exact ⟨(tables[place], place), (stands.mem_left _ _).2 ⟨present, unused.fresh⟩, rfl⟩

/-- After a table is chosen the others are left. -/
theorem commit {front back : List (LookupTable × Nat)} {entry : LookupTable × Nat}
    (stands : Stands fixed keys tables used (front ++ entry :: back) search)
    (smaller : (tried fixed search entry).size < search.size) :
    Stands fixed keys tables (used ++ [entry.2]) (front ++ back)
      (tried fixed search entry) where
  books := stands.books.commit rfl smaller
  chosen := by
    have member : entry ∈ front ++ entry :: back := by simp
    rw [tablesAt_concat ((stands.mem_left entry.1 entry.2).1 member).1, ← stands.chosen]
    rfl
  ascending := by
    apply List.Pairwise.sublist _ stands.ascending
    exact (List.sublist_cons_self entry back).append_left front
  mem_left := by
    intro table place
    have before := stands.mem_left table place
    have order := List.pairwise_append.1 stands.ascending
    have behind := List.pairwise_cons.1 order.2.1
    constructor
    · intro member
      have inLeft : (table, place) ∈ front ++ entry :: back := by
        apply ((List.sublist_cons_self entry back).append_left front).subset
        exact member
      have found := before.1 inLeft
      -- The chosen position is neither before nor after itself in ascending order.
      have other : place ≠ entry.2 := by
        cases List.mem_append.1 member with
        | inl inFront => exact Nat.ne_of_lt (order.2.2 _ inFront entry List.mem_cons_self)
        | inr inBack => exact Nat.ne_of_gt (behind.1 _ inBack)
      simp [found, other]
    · intro found
      simp only [List.mem_append, List.mem_singleton, not_or] at found
      have member := before.2 ⟨found.1, found.2.1⟩
      simp only [List.mem_append, List.mem_cons] at member ⊢
      rcases member with inFront | here | inBack
      · exact Or.inl inFront
      · exact absurd (congrArg Prod.snd here) found.2.2
      · exact Or.inr inBack

/-- What is left and does not stand before an entry has no earlier position. -/
theorem place_le {front back : List (LookupTable × Nat)} {entry other : LookupTable × Nat}
    (stands : Stands fixed keys tables used (front ++ entry :: back) search)
    (member : other ∈ front ++ entry :: back) (notBefore : other ∉ front) :
    entry.2 ≤ other.2 := by
  have behind := List.pairwise_cons.1 (List.pairwise_append.1 stands.ascending).2.1
  simp only [List.mem_append, List.mem_cons] at member
  rcases member with inFront | rfl | inBack
  · contradiction
  · exact Nat.le_refl _
  · exact Nat.le_of_lt (behind.1 other inBack)

/-- The first entry that brings the transaction within the limit is what the rule chooses. -/
theorem step_of_fits {front back : List (LookupTable × Nat)} {entry : LookupTable × Nat}
    (stands : Stands fixed keys tables used (front ++ entry :: back) search)
    (large : maxTransactionSize < search.size)
    (fits : (tried fixed search entry).size ≤ maxTransactionSize)
    (earlier : ∀ other ∈ front,
      maxTransactionSize < (tried fixed search other).size) :
    Step fixed keys tables used entry.2 := by
  have here : entry ∈ front ++ entry :: back := by simp
  have unused := stands.unused here
  rw [stands.size_tried here] at fits
  rw [stands.size_eq] at large
  refine ⟨unused, large, Int.lt_of_le_of_lt fits large, ?fitting, ?least⟩
  case fitting =>
    intro place other small
    obtain ⟨found, member, rfl⟩ := stands.exists_entry other
    rw [← stands.size_tried member] at small
    refine ⟨fits, stands.place_le member ?_⟩
    exact fun inFront => Int.not_le.2 (earlier found inFront) small
  case least =>
    intro none
    exact absurd fits (Int.not_le.2 (none entry.2 unused))

/-- When nothing brings the transaction within the limit, the first entry of least size is what the
rule chooses. -/
theorem step_of_least {front back : List (LookupTable × Nat)} {entry : LookupTable × Nat}
    (stands : Stands fixed keys tables used (front ++ entry :: back) search)
    (large : maxTransactionSize < search.size)
    (none : ∀ other ∈ front ++ entry :: back,
      maxTransactionSize < (tried fixed search other).size)
    (smaller : (tried fixed search entry).size < search.size)
    (earlier : ∀ other ∈ front, (tried fixed search entry).size <
      (tried fixed search other).size)
    (later : ∀ other ∈ back, (tried fixed search entry).size ≤
      (tried fixed search other).size) :
    Step fixed keys tables used entry.2 := by
  have here : entry ∈ front ++ entry :: back := by simp
  have unused := stands.unused here
  rw [stands.size_eq, stands.size_tried here] at smaller
  rw [stands.size_eq] at large
  refine ⟨unused, large, smaller, ?fitting, ?least⟩
  case fitting =>
    intro place other small
    obtain ⟨found, member, rfl⟩ := stands.exists_entry other
    rw [← stands.size_tried member] at small
    exact absurd small (Int.not_le.2 (none found member))
  case least =>
    intro _ place other
    obtain ⟨found, member, rfl⟩ := stands.exists_entry other
    rw [← stands.size_tried here, ← stands.size_tried member]
    constructor
    · have parts := member
      simp only [List.mem_append, List.mem_cons] at parts
      rcases parts with inFront | rfl | inBack
      · exact Int.le_of_lt (earlier found inFront)
      · exact Int.le_refl _
      · exact later found inBack
    · intro same
      apply stands.place_le member
      exact fun inFront => Int.not_lt.2 same (earlier found inFront)

end Stands

/-- The trials of the candidates of some entries are those of the entries. -/
theorem trials_eq (search : Search) (left : List (LookupTable × Nat)) :
    search.trials fixed (left.map fun entry => Candidate.ofTable entry.1) =
      left.map fun entry => (Candidate.ofTable entry.1, tried fixed search entry) := by
  rw [Search.trials, List.map_map]
  rfl

/-- A trial comes from the entry that stands where it does. -/
theorem split_of_trials {search : Search} {left : List (LookupTable × Nat)}
    {before after : List (Candidate × Search)} {trial : Candidate × Search}
    (split : search.trials fixed (left.map fun entry => Candidate.ofTable entry.1) =
      before ++ trial :: after) :
    ∃ front entry back, left = front ++ entry :: back ∧
      before = search.trials fixed (front.map fun entry => Candidate.ofTable entry.1) ∧
      trial = (Candidate.ofTable entry.1, tried fixed search entry) ∧
      after = search.trials fixed (back.map fun entry => Candidate.ofTable entry.1) := by
  rw [trials_eq] at split
  obtain ⟨front, rest, rfl, rfl, later⟩ := List.map_eq_append_iff.1 split
  obtain ⟨entry, back, rfl, rfl, rfl⟩ := List.map_eq_cons_iff.1 later
  exact ⟨front, entry, back, rfl, (trials_eq search front).symm, rfl, (trials_eq search back).symm⟩

/-- A search above the limit chooses what the rule chooses from where it stands. -/
theorem exists_run_searchTables {used : List Nat} {left : List (LookupTable × Nat)}
    {search : Search} {pool : List Candidate}
    (stands : Stands fixed keys tables used left search)
    (entries : pool = left.map fun entry => Candidate.ofTable entry.1)
    (large : maxTransactionSize < search.size) :
    ∃ later, Run fixed keys tables used later ∧
      (searchTables fixed search pool).tables = tablesAt tables (used ++ later) := by
  fun_induction searchTables fixed search pool generalizing used left with
  | case1 search pool trial found =>
      subst entries
      obtain ⟨fits, before, after, split, earlier⟩ := List.find?_eq_some_iff_append.1 found
      obtain ⟨front, entry, back, rfl, rfl, rfl, rfl⟩ := split_of_trials split
      have small : (tried fixed search entry).size ≤ maxTransactionSize := by
        simpa [Search.fits] using fits
      have dear : ∀ other ∈ front,
          maxTransactionSize < (tried fixed search other).size := by
        simp only [trials_eq, List.forall_mem_map] at earlier
        intro other member
        simpa [Search.fits] using earlier other member
      have step := stands.step_of_fits large small dear
      have next := stands.commit (Int.lt_of_le_of_lt small large)
      refine ⟨[entry.2], .choose step (.stop ?_), next.chosen⟩
      intro still
      rw [← next.size_eq] at still
      exact absurd small (Int.not_le.2 still)
  | case2 search pool _ nothing =>
      subst entries
      refine ⟨[], .stop ?_, by rw [List.append_nil, stands.chosen]⟩
      intro _ place unused
      obtain ⟨entry, member, rfl⟩ := stands.exists_entry unused
      rw [← stands.size_eq, ← stands.size_tried member]
      have kept := le_of_leastBelow_eq_none nothing
      simp only [trials_eq, List.forall_mem_map] at kept
      exact kept entry member
  | case3 search pool noneFits trial others found _ ih =>
      subst entries
      obtain ⟨before, after, split, rfl, smaller, earlier, later⟩ := leastBelow_split found
      obtain ⟨front, entry, back, rfl, rfl, rfl, rfl⟩ := split_of_trials split
      have none : ∀ other ∈ front ++ entry :: back,
          maxTransactionSize < (tried fixed search other).size := by
        have unfit := List.find?_eq_none.1 noneFits
        simp only [trials_eq, List.forall_mem_map] at unfit
        intro other member
        simpa [Search.fits] using unfit other member
      simp only [trials_eq, List.forall_mem_map] at earlier later
      have step := stands.step_of_least large none smaller earlier later
      have next := stands.commit smaller
      obtain ⟨rest, run, chosen⟩ := ih next
        (by simp [trials_eq, Function.comp_def]) (none entry (by simp))
      refine ⟨entry.2 :: rest, .choose step run, ?_⟩
      rw [chosen, List.append_assoc, List.singleton_append]

/-- The choice of tables for a transaction above the limit is the one that the rule makes. -/
theorem exists_run_chooseTables (fixed : FixedPart) (keys : KeySet) (tables : List LookupTable)
    (large : maxTransactionSize < totalSize fixed 0 0 keys.size) :
    ∃ places, Run fixed keys tables [] places ∧
      (chooseTables fixed (totalSize fixed 0 0 keys.size) keys
        (tables.map Candidate.ofTable)).tables = tablesAt tables places := by
  have entries : tables.map Candidate.ofTable =
      tables.zipIdx.map fun entry => Candidate.ofTable entry.1 := by
    have same := congrArg (List.map Candidate.ofTable) (List.zipIdx_map_fst 0 tables)
    rw [List.map_map] at same
    exact same.symm
  exact exists_run_searchTables (Stands.start fixed keys tables) entries large

/-! ### Tables that overlap -/

/-- A table of keys with consecutive numbers. -/
def numberedTable (key first count : Nat) : LookupTable :=
  ⟨Key.ofNat key, (List.range' first count).map Key.ofNat⟩

/-- Two tables that overlap, one apart from them and one of other keys. -/
def overlapping : List LookupTable :=
  [numberedTable 20 100 30, numberedTable 21 120 50, numberedTable 22 170 10,
    numberedTable 23 500 30]

/-- Eighty keys, each of them in one of the first three tables. -/
def eightyKeys : KeySet := KeySet.ofList ((List.range' 100 80).map Key.ofNat)

/-- The rest of a transaction that is too large with the eighty keys in full. -/
def bulky : FixedPart := ⟨800, 2⟩

end TableChoice

/-! ### The result of the search -/

open TableChoice

/-- The search keeps its books: what it reports of a transaction above the limit is what the tables
that it has chosen come to, however they overlap, and each of them was worth its overhead. -/
theorem chooseTables_keeps_books
    (large : maxTransactionSize < totalSize fixed 0 0 keys.size) :
    let plain := totalSize fixed 0 0 keys.size
    let result := chooseTables fixed plain keys (tables.map Candidate.ofTable)
    let addresses := LookupTable.addressUnion result.tables
    (∃ places : List Nat, places.Nodup ∧
      places.map (fun place => tables[place]?) = result.tables.map some) ∧
    result.size = totalSize fixed result.tables.length (keys.inter addresses).size
      (keys.difference addresses).size ∧
    result.uniqueKeys = fixed.keys + keys.size ∧
    (∀ earlier table later, result.tables = earlier ++ table :: later →
      2 ≤ ((keys.difference (LookupTable.addressUnion earlier)).inter
        (KeySet.ofList table.addresses)).size) ∧
    (result.tables ≠ [] → result.size < plain) ∧ (result.tables = [] → result.size = plain) := by
  intro plain result addresses
  have books : (searchTables fixed (Search.start plain keys)
      (tables.map Candidate.ofTable)).Books fixed keys :=
    (Search.Books.start fixed keys).searchTables (Candidate.faithful_ofTables tables) large
  have size : result.size = sizeWith fixed keys result.tables := size_eq_of_books books
  have empty : sizeAfter fixed keys tables [] = plain :=
    (Stands.start fixed keys tables).size_eq.symm
  obtain ⟨places, run, chosen⟩ := exists_run_chooseTables fixed keys tables large
  have after : result.size = sizeAfter fixed keys tables places := by
    rw [size, sizeAfter, ← chosen]
  refine ⟨?taken, size, ?uniqueKeys, ?useful, ?shrinks, ?keeps⟩
  case taken =>
    refine ⟨places, run.nodup List.nodup_nil, ?_⟩
    rw [map_tablesAt run.lt_length, ← chosen]
  case uniqueKeys =>
    have loaded := books.loaded
    show fixed.keys + _ + _ = _
    omega
  case useful =>
    intro earlier table later split
    rw [← heldBy_eq_size_inter]
    exact books.useful earlier table later split
  case shrinks =>
    intro some
    have nonempty : places ≠ [] := by
      rintro rfl
      exact some chosen
    rw [after, ← empty]
    exact run.sizeAfter_lt nonempty
  case keeps =>
    intro none
    rw [size, none, ← empty]
    rfl

theorem chooseTables_keeps_books_overlapping :
    let plain := totalSize bulky 0 0 eightyKeys.size
    let result := chooseTables bulky plain eightyKeys (overlapping.map Candidate.ofTable)
    maxTransactionSize < plain ∧ result.tables.map (·.key) = [21, 20, 22].map Key.ofNat ∧
      result.uniqueKeys = 82 ∧ result.size < plain ∧
      ∃ places : List Nat, places.Nodup ∧
        places.map (fun place => overlapping[place]?) = result.tables.map some := by
  intro plain result
  have large : maxTransactionSize < plain := by decide +kernel
  have keys : result.tables.map (·.key) = [21, 20, 22].map Key.ofNat := by decide +kernel
  have count : bulky.keys + (eightyKeys.size : Int) = 82 := by decide +kernel
  have some : result.tables ≠ [] := by
    intro none
    simp [none] at keys
  obtain ⟨distinct, _, uniqueKeys, _, shrinks, _⟩ := chooseTables_keeps_books large
  exact ⟨large, keys, uniqueKeys.trans count, shrinks some, distinct⟩

/-- The search follows the rule: every table that it chooses is the one that the rule chooses next,
so the sizes fall from one to the next and only the last one may be within the limit; it ends where
the rule does; and no other choice follows the rule. -/
theorem chooseTables_follows_rule
    (large : maxTransactionSize < totalSize fixed 0 0 keys.size) :
    let result := chooseTables fixed (totalSize fixed 0 0 keys.size) keys
      (tables.map Candidate.ofTable)
    ∃ places : List Nat,
      places.map (fun place => tables[place]?) = result.tables.map some ∧
      sizeAfter fixed keys tables [] = totalSize fixed 0 0 keys.size ∧
      sizeAfter fixed keys tables places = result.size ∧
      (∀ used place later, places = used ++ place :: later →
        Step fixed keys tables used place) ∧
      (maxTransactionSize < result.size → ∀ other, Unused tables places other →
        result.size ≤ sizeAfter fixed keys tables (places ++ [other])) ∧
      ∀ other, Run fixed keys tables [] other → other = places := by
  intro result
  have books : (searchTables fixed (Search.start (totalSize fixed 0 0 keys.size) keys)
      (tables.map Candidate.ofTable)).Books fixed keys :=
    (Search.Books.start fixed keys).searchTables (Candidate.faithful_ofTables tables) large
  obtain ⟨places, run, chosen⟩ := exists_run_chooseTables fixed keys tables large
  have after : sizeAfter fixed keys tables places = result.size := by
    rw [sizeAfter, ← chosen]
    exact (size_eq_of_books books).symm
  refine ⟨places, ?taken, ?start, after, ?steps, ?final, ?unique⟩
  case taken => rw [map_tablesAt run.lt_length, ← chosen]
  case start => exact (Stands.start fixed keys tables).size_eq.symm
  case steps => exact fun _ _ _ split => run.step_of_split split
  case final =>
    rw [← after]
    exact run.final
  case unique => exact fun _ other => other.unique run

/-- The second table saves the most, and the first one still saves more than the third. -/
theorem chooseTables_follows_rule_overlapping :
    let plain := totalSize bulky 0 0 eightyKeys.size
    let result := chooseTables bulky plain eightyKeys (overlapping.map Candidate.ofTable)
    maxTransactionSize < plain ∧ result.size = 1047 ∧
      ∃ places : List Nat,
        places.map (fun place => overlapping[place]?) = result.tables.map some ∧
        sizeAfter bulky eightyKeys overlapping places = 1047 ∧
        ∀ other, Run bulky eightyKeys overlapping [] other → other = places := by
  intro plain result
  have large : maxTransactionSize < plain := by decide +kernel
  have size : result.size = 1047 := by decide +kernel
  obtain ⟨places, taken, _, after, _, _, unique⟩ := chooseTables_follows_rule large
  exact ⟨large, size, places, taken, after.trans size, unique⟩

end SolanaTransactions
