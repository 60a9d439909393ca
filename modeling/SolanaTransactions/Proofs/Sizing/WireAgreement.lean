/-
Module: SolanaTransactions.Proofs.Sizing.WireAgreement
Purpose: The estimate and the compiler agree on size, accounts and tables.
Main exports:
  Draft.CompiledTo.length_toBytes, Search.Books.length_toBytes, estimateSize_agrees_with_wire
-/
import Mathlib.Algebra.Order.BigOperators.Group.List
import Mathlib.Algebra.Order.Group.Nat
import SolanaTransactions.Proofs.Sizing.Estimate

namespace SolanaTransactions

/-!
The estimate assumes one byte for the number of tables and for the length of
each of their index lists.  This is right because tables are searched for at
most 128 accounts only, one of which is the payer, and because every chosen
table loads something.  The lengths that the estimate assumes for the counts of
the instructions are right up to 14 bits, which no transaction within the limit
exceeds.
-/

/-! ### Counts of more than two bytes -/

/-- How many bytes the counts of compiled instructions take beyond the lengths that the estimate
assumes for them. -/
def excess (order : List Key) (instructions : List Instruction) : Int :=
  ((CompactCount.encode instructions.length).length - compactLength instructions.length) +
    (((instructions.map (Draft.compileInstruction order)).flatMap
      CompiledInstruction.toBytes).length - bodySize instructions)

theorem excess_nonneg (order : List Key) (instructions : List Instruction) :
    0 ≤ excess order instructions := by
  have count := compactLength_le_length instructions.length
  have body := bodySize_le_length order instructions
  rw [excess]
  omega

theorem excess_eq_zero_iff (order : List Key) (instructions : List Instruction) :
    excess order instructions = 0 ↔ TwoByteCounts instructions := by
  have count := compactLength_le_length instructions.length
  have body := bodySize_le_length order instructions
  rw [TwoByteCounts, ← bodySize_eq_length_iff order, ← compactLength_eq_length_iff, excess]
  omega

/-! ### The length of a compiled transaction -/

theorem Message.length_lookup_le_loadedCount {message : Message} {lookup : TableLookup}
    (member : lookup ∈ message.lookups) :
    lookup.writable.length + lookup.readonly.length ≤ message.loadedCount :=
  List.single_le_sum (fun _ _ => Nat.zero_le _) _ (List.mem_map_of_mem member)

/-- The length of a compiled transaction when few of its accounts are loaded. -/
theorem Draft.CompiledTo.length_toBytes {draft : Draft} {tables : List LookupTable}
    {message : Message} (compiled : draft.CompiledTo tables message)
    (few : message.loadedCount ≤ 127) {signatures : List Signature}
    (slots : signatures.length = message.requiredSignatures) :
    ((Transaction.versioned message signatures).toBytes.length : Int) =
      compactLength message.requiredSignatures + 64 * message.requiredSignatures + 36 +
        compactLength message.body.keys.length + 32 * message.body.keys.length +
        (CompactCount.encode message.body.instructions.length).length +
        (message.body.instructions.flatMap CompiledInstruction.toBytes).length + 1 +
        34 * message.lookups.length + message.loadedCount := by
  have capacity := compiled.capacity
  have lookupCount := compiled.lookupCount
  have signerCount : message.requiredSignatures ≤ 16383 :=
    Nat.le_trans (Nat.le_of_lt message.body.header.requiredSignatures.toNat_lt) (by decide)
  have keyCount : message.body.keys.length ≤ 16383 := by
    rw [Message.accountCount] at capacity
    omega
  have short : ∀ lookup ∈ message.lookups,
      lookup.writable.length < 128 ∧ lookup.readonly.length < 128 := by
    intro lookup member
    have within := Message.length_lookup_le_loadedCount member
    omega
  obtain ⟨body, lookups, rfl⟩ := compiled.versionZero
  have lookupBytes := TableLookup.length_flatMap_toBytes short
  have lookupLength := CompactCount.length_encode_small
    (Nat.lt_succ_of_le (Nat.le_trans lookupCount few))
  rw [(compactLength_eq_length_iff _).2 signerCount, (compactLength_eq_length_iff _).2 keyCount,
    Transaction.length_toBytes_v0, slots]
  simp only [Message.body, Message.lookups, Message.loadedCount] at lookupBytes lookupLength ⊢
  omega

/-- The real size is the size that the search has computed, and what the counts of the instructions
take beyond their assumed lengths. -/
theorem Search.Books.length_toBytes {draft : Draft} {search : Search} {message : Message}
    (books : search.Books (fixedPart draft.instructions draft.payer)
      (loadableKeys draft.instructions draft.payer))
    (compiled : draft.CompiledTo search.tables message)
    (few : message.loadedCount ≤ 127) {signatures : List Signature}
    (slots : signatures.length = message.requiredSignatures) :
    ∃ order, ((Transaction.versioned message signatures).toBytes.length : Int) =
      search.size + excess order draft.instructions := by
  obtain ⟨order, instructions⟩ := compiled.instructions
  refine ⟨order, ?_⟩
  have tableCount := congrArg List.length
    (compiled.lookups (eachLoads_of_allUseful draft books.useful))
  rw [List.length_map, List.length_map] at tableCount
  have signers : message.requiredSignatures =
      (signerKeys draft.instructions draft.payer).size := by
    rw [compiled.signers, KeySet.size, toList_signerKeys]
  have stored := compiled.stored
  rw [length_storedWith, ← books.remaining] at stored
  have accounts := compiled.accounts
  rw [Message.accountCount, ← size_storedKeys_add_size_loadableKeys] at accounts
  have loaded := books.loaded
  rw [compiled.length_toBytes few slots, books.size, instructions, List.length_map, signers]
  rw [show (message.body.keys.length : Int) = (storedKeys draft.instructions draft.payer).size +
    search.remaining.size by omega]
  simp only [totalSize, fixedPart, lookupTableOverhead, keyLength, signatureLength, headerLength,
    blockhashLength, versionLength, excess]
  -- Both sides count the same signers, stored keys, tables and loaded accounts.
  omega

theorem Search.Books.bodySize_le_size {instructions : List Instruction} {payer : Key}
    {search : Search}
    (books : search.Books (fixedPart instructions payer) (loadableKeys instructions payer)) :
    bodySize instructions ≤ search.size := by
  have remaining : search.remaining.size ≤ (loadableKeys instructions payer).size := by
    rw [books.remaining]
    exact (KeySet.withoutSorted_sublist _ _).length_le
  have loaded := books.loaded
  have signers := one_le_compactLength (signerKeys instructions payer).size
  have count := one_le_compactLength instructions.length
  have keys := one_le_compactLength
    ((storedKeys instructions payer).size + search.remaining.size)
  rw [books.size]
  simp only [totalSize, fixedPart, lookupTableOverhead, keyLength, signatureLength, headerLength,
    blockhashLength, versionLength]
  omega

/-- Tables are only used for a transaction of at most 128 accounts, and the payer is stored. -/
theorem Draft.CompiledTo.loadedCount_le {draft : Draft} {tables : List LookupTable}
    {message : Message} (compiled : draft.CompiledTo tables message)
    (gate : tables = [] ∨ draft.keys.size ≤ 128) : message.loadedCount ≤ 127 := by
  rcases gate with rfl | few
  · have none : message.lookups = [] := by
      have noTables := compiled.lookups fun _ _ _ split => by simp at split
      simpa using noTables
    simp [Message.loadedCount, none]
  · have payer := List.length_pos_of_mem (draft.payer_mem_storedWith tables)
    rw [← compiled.stored] at payer
    rw [← compiled.accounts, Message.accountCount] at few
    omega

/-! ### The agreement -/

section Agreement

variable (draft : Draft) {pool : List Candidate} {blockhash : Blockhash} {message : Message}

theorem bodySize_le_estimateSize
    (faithful : ∀ candidate ∈ pool, candidate.Faithful) :
    bodySize draft.instructions ≤ (estimateSize draft.instructions draft.payer pool).size := by
  obtain ⟨search, books, result, _⟩ := estimateSize_books draft.instructions draft.payer faithful
  rw [result]
  exact books.bodySize_le_size

theorem uniqueKeys_estimateSize
    (faithful : ∀ candidate ∈ pool, candidate.Faithful) :
    (estimateSize draft.instructions draft.payer pool).uniqueKeys = draft.keys.size := by
  obtain ⟨search, books, result, _⟩ := estimateSize_books draft.instructions draft.payer faithful
  have loaded := books.loaded
  rw [result, ← size_storedKeys_add_size_loadableKeys]
  simp only [Search.estimate, fixedPart]
  omega

theorem lookups_of_compile_estimateSize (faithful : ∀ candidate ∈ pool, candidate.Faithful)
    (compiled : draft.compile (estimateSize draft.instructions draft.payer pool).tables blockhash =
      .ok message) :
    message.lookups.map (·.table) =
      (estimateSize draft.instructions draft.payer pool).tables.map (·.key) := by
  obtain ⟨search, books, result, _⟩ := estimateSize_books draft.instructions draft.payer faithful
  rw [result] at compiled ⊢
  exact (Draft.compiledTo_of_compile compiled).lookups (eachLoads_of_allUseful draft books.useful)

theorem length_toBytes_of_compile_estimateSize
    (faithful : ∀ candidate ∈ pool, candidate.Faithful)
    (compiled : draft.compile (estimateSize draft.instructions draft.payer pool).tables blockhash =
      .ok message)
    {signatures : List Signature} (slots : signatures.length = message.requiredSignatures) :
    ∃ order, ((Transaction.versioned message signatures).toBytes.length : Int) =
      (estimateSize draft.instructions draft.payer pool).size +
        excess order draft.instructions := by
  obtain ⟨search, books, result, gate⟩ :=
    estimateSize_books draft.instructions draft.payer faithful
  rw [size_storedKeys_add_size_loadableKeys] at gate
  rw [result] at compiled ⊢
  have counts := Draft.compiledTo_of_compile compiled
  exact books.length_toBytes counts (counts.loadedCount_le gate) slots

/-- An estimate within the limit is exact. -/
theorem length_toBytes_eq_size (faithful : ∀ candidate ∈ pool, candidate.Faithful)
    (compiled : draft.compile (estimateSize draft.instructions draft.payer pool).tables blockhash =
      .ok message)
    {signatures : List Signature} (slots : signatures.length = message.requiredSignatures)
    (fits : (estimateSize draft.instructions draft.payer pool).size ≤ maxTransactionSize) :
    ((Transaction.versioned message signatures).toBytes.length : Int) =
      (estimateSize draft.instructions draft.payer pool).size := by
  obtain ⟨order, length⟩ := length_toBytes_of_compile_estimateSize draft faithful compiled slots
  have small := Int.le_trans (bodySize_le_estimateSize draft faithful) fits
  have exact_counts := (excess_eq_zero_iff order _).2 (twoByteCounts_of_bodySize_le small)
  rw [length, exact_counts, Int.add_zero]

/-- The estimate is about the message that the draft compiles to with the estimated tables: it fits
exactly when the transaction does, it is exact up to counts of two bytes, it counts the accounts,
and no estimated table is dropped. -/
theorem estimateSize_agrees_with_wire {instructions : List Instruction} {payer : Key}
    {tables : List LookupTable} {blockhash : Blockhash} {message : Message}
    {signatures : List Signature}
    (compiled : Draft.compile ⟨payer, instructions⟩
      (estimateSize instructions payer (tables.map Candidate.ofTable)).tables blockhash =
        .ok message)
    (slots : signatures.length = message.requiredSignatures) :
    let estimate := estimateSize instructions payer (tables.map Candidate.ofTable)
    let length : Int := (Transaction.versioned message signatures).toBytes.length
    (estimate.size ≤ maxTransactionSize ↔ length ≤ maxTransactionSize) ∧
      (estimate.size = length ↔ TwoByteCounts instructions) ∧
      (estimate.size ≤ maxTransactionSize → estimate.size = length) ∧
      estimate.uniqueKeys = message.accountCount ∧
      message.lookups.map (·.table) = estimate.tables.map (·.key) := by
  intro estimate length
  have faithful : ∀ candidate ∈ tables.map Candidate.ofTable, candidate.Faithful :=
    Candidate.faithful_ofTables tables
  obtain ⟨order, lengthEq⟩ : ∃ order, length = estimate.size + excess order instructions :=
    length_toBytes_of_compile_estimateSize ⟨payer, instructions⟩ faithful compiled slots
  have nonneg := excess_nonneg order instructions
  have fitting : estimate.size ≤ maxTransactionSize → length = estimate.size :=
    length_toBytes_eq_size ⟨payer, instructions⟩ faithful compiled slots
  refine ⟨?fits, ?exact, ?exactWhenFits, ?accounts, ?lookups⟩
  case fits =>
    constructor
    · intro small
      rw [fitting small]
      exact small
    · intro small
      omega
  case exact =>
    rw [← excess_eq_zero_iff order]
    omega
  case exactWhenFits =>
    intro small
    exact (fitting small).symm
  case accounts =>
    rw [(Draft.compiledTo_of_compile compiled).accounts]
    exact uniqueKeys_estimateSize ⟨payer, instructions⟩ faithful
  case lookups =>
    exact lookups_of_compile_estimateSize ⟨payer, instructions⟩ faithful compiled

/-- A call on 40 accounts, too large for a transaction that stores them all. -/
def wideCall : Instruction :=
  ⟨Key.ofNat 900, (List.range 40).map fun index => ⟨Key.ofNat (index + 1), false, index % 2 = 0⟩,
    [1, 2, 3]⟩

/-- A table with all accounts of the wide call. -/
def wideTable : LookupTable :=
  ⟨Key.ofNat 5000, (List.range 45).map fun index => Key.ofNat (index + 1)⟩

theorem estimateSize_agrees_with_wire_wideCall :
    ∃ message, Draft.compile ⟨Key.ofNat 1000, [wideCall]⟩
        (estimateSize [wideCall] (Key.ofNat 1000) ([wideTable].map Candidate.ofTable)).tables
        Blockhash.zero = .ok message ∧
      (estimateSize [wideCall] (Key.ofNat 1000) ([wideTable].map Candidate.ofTable)).size =
        (Transaction.unsigned message).toBytes.length ∧
      message.lookups.map (·.table) = [wideTable.key] := by
  have result : estimateSize [wideCall] (Key.ofNat 1000) ([wideTable].map Candidate.ofTable) =
      ⟨288, [wideTable], 42⟩ := by
    decide +kernel
  obtain ⟨message, compiled⟩ : ∃ message, Draft.compile ⟨Key.ofNat 1000, [wideCall]⟩
      (estimateSize [wideCall] (Key.ofNat 1000) ([wideTable].map Candidate.ofTable)).tables
      Blockhash.zero = .ok message := by
    apply Draft.exists_compile
    · decide +kernel
    · rw [result]
      decide +kernel
  obtain ⟨_, _, fits, _, lookups⟩ :=
    estimateSize_agrees_with_wire compiled (List.length_replicate (a := Signature.blank))
  refine ⟨message, compiled, fits ?_, ?_⟩
  · rw [result]
    decide
  · rw [lookups, result]
    rfl

end Agreement

end SolanaTransactions
