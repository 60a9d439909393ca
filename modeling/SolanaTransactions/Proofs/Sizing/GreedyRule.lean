/-
Module: SolanaTransactions.Proofs.Sizing.GreedyRule
Purpose: The rule by which lookup tables are chosen, told without the search for them.
Main exports:
  TableChoice.sizeAfter, TableChoice.Step, TableChoice.Run, TableChoice.Run.unique,
  TableChoice.Run.step_of_split, TableChoice.Run.final, TableChoice.Run.sizeAfter_lt
-/
import SolanaTransactions.Proofs.Sizing.TableSearch

namespace SolanaTransactions

/-!
A choice is told by positions in the list of tables, in the order in which they
are chosen: a list may hold one table twice, and which of two equal tables is
taken shows in their positions only.  The rule speaks of sizes in closed form
and not of the state of a search.  It leaves no freedom, so whatever follows it
chooses the same.
-/

variable {fixed : FixedPart} {keys : KeySet} {tables : List LookupTable}

namespace TableChoice

/-- The tables at some positions of a list. -/
def tablesAt (tables : List LookupTable) (places : List Nat) : List LookupTable :=
  places.filterMap fun place => tables[place]?

/-- The size that a transaction comes to with some tables: every key that one of them holds takes an
index byte, and every other key is stored. -/
def sizeWith (fixed : FixedPart) (keys : KeySet) (chosen : List LookupTable) : Int :=
  let addresses := LookupTable.addressUnion chosen
  totalSize fixed chosen.length (keys.inter addresses).size (keys.difference addresses).size

/-- The size of a transaction after the tables at some positions are chosen for it. -/
def sizeAfter (fixed : FixedPart) (keys : KeySet) (tables : List LookupTable)
    (places : List Nat) : Int :=
  sizeWith fixed keys (tablesAt tables places)

/-- A position of the list that has not been chosen. -/
structure Unused (tables : List LookupTable) (used : List Nat) (place : Nat) : Prop where
  inside : place < tables.length
  fresh : place ∉ used

/-- What the rule demands of the position that is chosen after some others. -/
structure Step (fixed : FixedPart) (keys : KeySet) (tables : List LookupTable)
    (used : List Nat) (place : Nat) : Prop where
  unused : Unused tables used place
  /-- Nothing is chosen for a transaction that is within the limit. -/
  large : maxTransactionSize < sizeAfter fixed keys tables used
  smaller : sizeAfter fixed keys tables (used ++ [place]) < sizeAfter fixed keys tables used
  /-- A table that brings the transaction within the limit is taken when there is one, and the
  earliest one of them. -/
  fitting : ∀ other, Unused tables used other →
    sizeAfter fixed keys tables (used ++ [other]) ≤ maxTransactionSize →
    sizeAfter fixed keys tables (used ++ [place]) ≤ maxTransactionSize ∧ place ≤ other
  /-- Otherwise the table that leaves the least size is taken, and the earliest one of them. -/
  least : (∀ other, Unused tables used other →
      maxTransactionSize < sizeAfter fixed keys tables (used ++ [other])) →
    ∀ other, Unused tables used other →
      sizeAfter fixed keys tables (used ++ [place]) ≤
          sizeAfter fixed keys tables (used ++ [other]) ∧
        (sizeAfter fixed keys tables (used ++ [other]) ≤
          sizeAfter fixed keys tables (used ++ [place]) → place ≤ other)

/-- The positions that the rule chooses after some others, up to a size within the limit or one that
no unused table makes smaller. -/
inductive Run (fixed : FixedPart) (keys : KeySet) (tables : List LookupTable) :
    List Nat → List Nat → Prop where
  | stop {used : List Nat}
      (final : maxTransactionSize < sizeAfter fixed keys tables used →
        ∀ other, Unused tables used other →
          sizeAfter fixed keys tables used ≤ sizeAfter fixed keys tables (used ++ [other])) :
      Run fixed keys tables used []
  | choose {used later : List Nat} {place : Nat}
      (step : Step fixed keys tables used place)
      (rest : Run fixed keys tables (used ++ [place]) later) :
      Run fixed keys tables used (place :: later)

/-- The rule leaves one position to choose. -/
theorem Step.unique {used : List Nat} {first second : Nat}
    (one : Step fixed keys tables used first) (two : Step fixed keys tables used second) :
    first = second := by
  by_cases fits : ∃ other, Unused tables used other ∧
      sizeAfter fixed keys tables (used ++ [other]) ≤ maxTransactionSize
  · obtain ⟨other, unused, small⟩ := fits
    have firstFits := (one.fitting other unused small).1
    have secondFits := (two.fitting other unused small).1
    apply Nat.le_antisymm
    · exact (one.fitting second two.unused secondFits).2
    · exact (two.fitting first one.unused firstFits).2
  · have none : ∀ other, Unused tables used other →
        maxTransactionSize < sizeAfter fixed keys tables (used ++ [other]) := by
      intro other unused
      apply Int.not_le.1
      exact fun small => fits ⟨other, unused, small⟩
    have ahead := one.least none second two.unused
    have behind := two.least none first one.unused
    apply Nat.le_antisymm
    · exact ahead.2 behind.1
    · exact behind.2 ahead.1

namespace Run

variable {used later : List Nat}

/-- The rule leaves one choice of tables. -/
theorem unique {other : List Nat} (one : Run fixed keys tables used later)
    (two : Run fixed keys tables used other) : later = other := by
  induction one generalizing other with
  | stop final =>
      cases two with
      | stop _ => rfl
      | choose step _ =>
          have kept := final step.large _ step.unused
          exact absurd step.smaller (Int.not_lt.2 kept)
  | choose step _ ih =>
      cases two with
      | stop final =>
          have kept := final step.large _ step.unused
          exact absurd step.smaller (Int.not_lt.2 kept)
      | choose otherStep rest =>
          cases step.unique otherStep
          rw [ih rest]

/-- Every position of a run is chosen by the rule. -/
theorem step_of_split (run : Run fixed keys tables used later) {front back : List Nat} {place : Nat}
    (split : later = front ++ place :: back) : Step fixed keys tables (used ++ front) place := by
  induction run generalizing front with
  | stop _ => simp at split
  | choose step _ ih =>
      cases front with
      | nil =>
          cases split
          rw [List.append_nil]
          exact step
      | cons first others =>
          cases split
          have later := ih rfl
          rw [List.append_assoc, List.singleton_append] at later
          exact later

/-- A run ends within the limit, or where no unused table makes the transaction smaller. -/
theorem final (run : Run fixed keys tables used later)
    (large : maxTransactionSize < sizeAfter fixed keys tables (used ++ later)) :
    ∀ other, Unused tables (used ++ later) other →
      sizeAfter fixed keys tables (used ++ later) ≤
        sizeAfter fixed keys tables (used ++ later ++ [other]) := by
  induction run with
  | stop final =>
      rw [List.append_nil] at large ⊢
      exact final large
  | choose _ _ ih =>
      rw [← List.singleton_append, ← List.append_assoc] at large ⊢
      exact ih large

/-- A run that chooses something makes the transaction smaller. -/
theorem sizeAfter_lt (run : Run fixed keys tables used later) (some : later ≠ []) :
    sizeAfter fixed keys tables (used ++ later) < sizeAfter fixed keys tables used := by
  induction run with
  | stop _ => contradiction
  | @choose used later place step _ ih =>
      rw [← List.singleton_append, ← List.append_assoc]
      cases later with
      | nil =>
          rw [List.append_nil]
          exact step.smaller
      | cons next rest => exact Int.lt_trans (ih (List.cons_ne_nil next rest)) step.smaller

/-- No position is chosen twice. -/
theorem nodup (run : Run fixed keys tables used later) (distinct : used.Nodup) :
    (used ++ later).Nodup := by
  induction run with
  | stop _ =>
      rw [List.append_nil]
      exact distinct
  | choose step _ ih =>
      rw [← List.singleton_append, ← List.append_assoc]
      apply ih
      exact List.nodup_append.2 ⟨distinct, List.nodup_singleton _, fun old before new chosen =>
        fun same => step.unused.fresh (List.mem_singleton.1 chosen ▸ same ▸ before)⟩

/-- Every chosen position lies in the list. -/
theorem lt_length (run : Run fixed keys tables used later) :
    ∀ place ∈ later, place < tables.length := by
  induction run with
  | stop _ => exact List.forall_mem_nil _
  | choose step _ ih => exact List.forall_mem_cons.2 ⟨step.unused.inside, ih⟩

end Run

/-- Positions of the list have a table each. -/
theorem map_tablesAt {places : List Nat} (inside : ∀ place ∈ places, place < tables.length) :
    places.map (fun place => tables[place]?) = (tablesAt tables places).map some := by
  induction places with
  | nil => rfl
  | cons place rest ih =>
      have parts := List.forall_mem_cons.1 inside
      have present := List.getElem?_eq_getElem parts.1
      simp only [tablesAt, List.map_cons, List.filterMap_cons, present] at ih ⊢
      rw [ih parts.2]

end TableChoice

end SolanaTransactions
