/-
Module: SolanaTransactions.Proofs.Sizing.Estimate
Purpose: The key sets and sizes of the estimate, read off the draft that a message is compiled from.
Main exports:
  toList_signerKeys, toList_storedKeys, toList_loadableKeys, estimateSize_books,
  TwoByteCounts, bodySize_le_length, bodySize_eq_length_iff, twoByteCounts_of_bodySize_le
-/
import SolanaTransactions.Proofs.Message.Compiled
import SolanaTransactions.Proofs.Sizing.TableSearch
import SolanaTransactions.Sizing.Estimate

namespace SolanaTransactions

/-! ### Keys

The estimate takes unions and differences of sets; the compiler tests every key
of the draft.  Both describe the same partition of the keys. -/

section Keys

variable (draft : Draft)

theorem mem_signerKeys_iff (key : Key) :
    key ∈ signerKeys draft.instructions draft.payer ↔ draft.signs key = true := by
  simp only [signerKeys, KeySet.mem_ofList, Draft.signs, Draft.uses, List.mem_cons,
    List.mem_flatMap, List.mem_map, List.mem_filter, Bool.or_eq_true, beq_iff_eq, List.any_eq_true,
    Bool.and_eq_true]
  apply or_congr Iff.rfl
  constructor
  · rintro ⟨instruction, listed, account, ⟨used, signer⟩, rfl⟩
    exact ⟨instruction, listed, account, used, rfl, signer⟩
  · rintro ⟨instruction, listed, account, used, rfl, signer⟩
    exact ⟨instruction, listed, account, ⟨used, signer⟩, rfl⟩

theorem mem_programKeys_iff (key : Key) :
    key ∈ programKeys draft.instructions ↔ draft.invokes key = true := by
  simp [programKeys, Draft.invokes]

theorem mem_storedKeys_iff (key : Key) :
    key ∈ storedKeys draft.instructions draft.payer ↔ draft.mayLoad key = false := by
  rw [storedKeys, KeySet.mem_union, mem_signerKeys_iff, mem_programKeys_iff, Draft.mayLoad]
  cases draft.signs key <;> cases draft.invokes key <;> simp

theorem mem_keys_of_signs {key : Key} (signs : draft.signs key = true) : key ∈ draft.keys := by
  rw [← mem_signerKeys_iff, signerKeys, KeySet.mem_ofList, List.mem_cons] at signs
  rw [Draft.keys, KeySet.mem_ofList, List.mem_cons]
  apply signs.imp_right
  intro used
  obtain ⟨instruction, listed, member⟩ := List.mem_flatMap.1 used
  obtain ⟨account, signer, rfl⟩ := List.mem_map.1 member
  exact List.mem_flatMap.2 ⟨instruction, listed,
    List.mem_cons_of_mem _ (List.mem_map_of_mem (List.mem_of_mem_filter signer))⟩

theorem mem_keys_of_invokes {key : Key} (invokes : draft.invokes key = true) :
    key ∈ draft.keys := by
  rw [← mem_programKeys_iff, programKeys, KeySet.mem_ofList] at invokes
  obtain ⟨instruction, listed, rfl⟩ := List.mem_map.1 invokes
  rw [Draft.keys, KeySet.mem_ofList]
  exact List.mem_cons_of_mem _
    (List.mem_flatMap.2 ⟨instruction, listed, List.mem_cons_self⟩)

theorem mem_loadableKeys_iff (key : Key) :
    key ∈ loadableKeys draft.instructions draft.payer ↔
      key ∈ draft.keys ∧ draft.mayLoad key = true := by
  rw [loadableKeys, KeySet.mem_difference, mem_storedKeys_iff, KeySet.mem_ofList,
    Bool.not_eq_false]
  apply and_congr_left
  intro mayLoad
  simp only [Draft.mayLoad, Bool.and_eq_true, Bool.not_eq_true'] at mayLoad
  rw [Draft.keys, KeySet.mem_ofList, List.mem_cons, List.mem_flatMap, List.mem_flatMap]
  constructor
  · rintro ⟨instruction, listed, used⟩
    exact Or.inr ⟨instruction, listed, List.mem_cons_of_mem _ used⟩
  · rintro (rfl | ⟨instruction, listed, used⟩)
    · simp at mayLoad
    · rcases List.mem_cons.1 used with rfl | account
      · have invoked : draft.invokes instruction.program = true := by
          simp only [Draft.invokes, List.any_eq_true, beq_iff_eq]
          exact ⟨instruction, listed, rfl⟩
        simp [invoked] at mayLoad
      · exact ⟨instruction, listed, account⟩

theorem toList_signerKeys :
    (signerKeys draft.instructions draft.payer).toList =
      draft.keys.toList.filter draft.signs := by
  apply KeySet.toList_eq_filter
  intro key
  rw [mem_signerKeys_iff]
  exact ⟨fun signs => ⟨mem_keys_of_signs draft signs, signs⟩, And.right⟩

theorem toList_storedKeys :
    (storedKeys draft.instructions draft.payer).toList =
      draft.keys.toList.filter fun key => !draft.mayLoad key := by
  apply KeySet.toList_eq_filter
  intro key
  rw [mem_storedKeys_iff, Bool.not_eq_true']
  refine ⟨fun kept => ⟨?_, kept⟩, And.right⟩
  rw [Draft.mayLoad, Bool.and_eq_false_iff, Bool.not_eq_false', Bool.not_eq_false'] at kept
  exact kept.elim (mem_keys_of_signs draft) (mem_keys_of_invokes draft)

theorem toList_loadableKeys :
    (loadableKeys draft.instructions draft.payer).toList =
      draft.keys.toList.filter draft.mayLoad :=
  KeySet.toList_eq_filter (mem_loadableKeys_iff draft)

/-- Every key is either to be stored or may be loaded. -/
theorem size_storedKeys_add_size_loadableKeys :
    (storedKeys draft.instructions draft.payer).size +
      (loadableKeys draft.instructions draft.payer).size = draft.keys.size := by
  rw [KeySet.size, KeySet.size, KeySet.size, toList_storedKeys, toList_loadableKeys, Nat.add_comm]
  exact (List.length_eq_length_filter_add draft.mayLoad).symm

theorem loadsFromAny_eq (tables : List LookupTable) (key : Key) :
    draft.loadsFromAny tables key =
      (draft.mayLoad key && (LookupTable.addressUnion tables).toList.contains key) := by
  have inUnion : (LookupTable.addressUnion tables).toList.contains key =
      tables.any fun table => table.addresses.contains key := by
    rw [Bool.eq_iff_iff, List.contains_iff_mem, ← KeySet.mem_def, LookupTable.addressUnion,
      KeySet.mem_ofList]
    simp
  rw [inUnion, Draft.loadsFromAny]
  cases mayLoad : draft.mayLoad key with
  | false => simp [Draft.loadsFrom, mayLoad]
  | true => simp [Draft.loadsFrom, mayLoad]

/-- The keys that some tables leave to be stored are those that no table may load and those that
remain after a search over these tables. -/
theorem length_storedWith (tables : List LookupTable) :
    (draft.storedWith tables).length =
      (storedKeys draft.instructions draft.payer).size +
        ((loadableKeys draft.instructions draft.payer).difference
          (LookupTable.addressUnion tables)).size := by
  rw [KeySet.size, KeySet.size, toList_storedKeys, KeySet.toList_difference, toList_loadableKeys,
    List.length_eq_length_filter_add (l := draft.storedWith tables) draft.mayLoad, Nat.add_comm,
    Draft.storedWith, List.filter_filter, List.filter_filter, List.filter_filter]
  congr 2
  · apply List.filter_congr
    intro key _
    rw [loadsFromAny_eq]
    cases draft.mayLoad key <;> simp
  · apply List.filter_congr
    intro key _
    rw [loadsFromAny_eq]
    cases draft.mayLoad key <;> simp

/-- Tables that are worth their overhead each load something. -/
theorem eachLoads_of_allUseful {tables : List LookupTable}
    (useful : LookupTable.AllUseful (loadableKeys draft.instructions draft.payer) tables) :
    draft.EachLoads tables draft.keys.toList := by
  intro earlier table later split
  have fresh := useful earlier table later split
  rw [LookupTable.freshCount, heldBy_eq_length_filter] at fresh
  obtain ⟨key, member⟩ := List.exists_mem_of_length_pos (Nat.lt_of_lt_of_le Nat.two_pos fresh)
  obtain ⟨remaining, held⟩ := List.mem_filter.1 member
  rw [← KeySet.mem_def, KeySet.mem_difference, mem_loadableKeys_iff] at remaining
  obtain ⟨⟨inDraft, mayLoad⟩, unloaded⟩ := remaining
  rw [List.contains_iff_mem, ← KeySet.mem_def, KeySet.mem_ofList] at held
  refine ⟨key, inDraft, ?_, ?_⟩
  · rw [Draft.loadsFrom, mayLoad, Bool.true_and, List.contains_iff_mem]
    exact held
  · rw [loadsFromAny_eq, mayLoad, Bool.true_and, ← Bool.not_eq_true, List.contains_iff_mem]
    exact unloaded

end Keys

/-! ### The estimate as a search -/

/-- Every estimate over faithful candidates is the estimate of a search with its books in order;
tables are only used for a transaction whose accounts are within their limit. -/
theorem estimateSize_books (instructions : List Instruction) (payer : Key) {pool : List Candidate}
    (faithful : ∀ candidate ∈ pool, candidate.Faithful) :
    ∃ search : Search,
      search.Books (fixedPart instructions payer) (loadableKeys instructions payer) ∧
      estimateSize instructions payer pool = search.estimate (fixedPart instructions payer) ∧
      (search.tables = [] ∨
        (storedKeys instructions payer).size + (loadableKeys instructions payer).size ≤ 128) := by
  simp only [estimateSize]
  split
  · refine ⟨_, Search.Books.start _ _, ?_, Or.inl rfl⟩
    simp [Search.estimate, Search.start]
  · next search =>
      simp only [not_or, Int.not_le, Int.not_lt] at search
      obtain ⟨large, _, few⟩ := search
      obtain ⟨final, books, result⟩ := chooseTables_books _ _ faithful large
      refine ⟨final, books, result, Or.inr ?_⟩
      simp only [fixedPart, maxUniqueKeys] at few
      omega

theorem exists_candidate_of_mem_estimateSize {instructions : List Instruction} {payer : Key}
    {pool : List Candidate} {table : LookupTable}
    (member : table ∈ (estimateSize instructions payer pool).tables) :
    ∃ candidate ∈ pool, candidate.table = table := by
  simp only [estimateSize] at member
  split at member
  · contradiction
  · next search =>
      simp only [not_or, Int.not_le] at search
      exact drawsFrom_searchTables search.1 table member

/-! ### Sizes of instructions -/

/-- Whether every count that a message writes for instructions takes at most two bytes. -/
def TwoByteCounts (instructions : List Instruction) : Prop :=
  instructions.length ≤ 16383 ∧ ∀ instruction ∈ instructions,
    instruction.accounts.length ≤ 16383 ∧ instruction.data.length ≤ 16383

theorem instructionSize_le_length (order : List Key) (instruction : Instruction) :
    instructionSize instruction ≤ (Draft.compileInstruction order instruction).toBytes.length := by
  have accounts := compactLength_le_length instruction.accounts.length
  have data := compactLength_le_length instruction.data.length
  simp only [instructionSize, Draft.compileInstruction, CompiledInstruction.length_toBytes,
    List.length_map]
  omega

theorem instructionSize_eq_length_iff (order : List Key) (instruction : Instruction) :
    instructionSize instruction = (Draft.compileInstruction order instruction).toBytes.length ↔
      instruction.accounts.length ≤ 16383 ∧ instruction.data.length ≤ 16383 := by
  have accounts := compactLength_le_length instruction.accounts.length
  have data := compactLength_le_length instruction.data.length
  rw [← compactLength_eq_length_iff, ← compactLength_eq_length_iff]
  simp only [instructionSize, Draft.compileInstruction, CompiledInstruction.length_toBytes,
    List.length_map]
  omega

theorem bodySize_le_length (order : List Key) (instructions : List Instruction) :
    bodySize instructions ≤ (((instructions.map (Draft.compileInstruction order)).flatMap
      CompiledInstruction.toBytes).length : Int) := by
  induction instructions with
  | nil => exact Int.le_refl 0
  | cons head rest ih =>
      have first := instructionSize_le_length order head
      simp only [bodySize, List.map_cons, List.flatMap_cons, List.length_append]
      omega

theorem bodySize_eq_length_iff (order : List Key) (instructions : List Instruction) :
    bodySize instructions = (((instructions.map (Draft.compileInstruction order)).flatMap
      CompiledInstruction.toBytes).length : Int) ↔
      ∀ instruction ∈ instructions,
        instruction.accounts.length ≤ 16383 ∧ instruction.data.length ≤ 16383 := by
  induction instructions with
  | nil => simp [bodySize]
  | cons head rest ih =>
      have first := instructionSize_le_length order head
      have later := bodySize_le_length order rest
      rw [List.forall_mem_cons, ← ih, ← instructionSize_eq_length_iff order head]
      simp only [bodySize, List.map_cons, List.flatMap_cons, List.length_append]
      omega

theorem three_add_le_instructionSize (instruction : Instruction) :
    3 + instruction.accounts.length + instruction.data.length ≤ instructionSize instruction := by
  have accounts := one_le_compactLength instruction.accounts.length
  have data := one_le_compactLength instruction.data.length
  simp only [instructionSize]
  omega

theorem length_le_bodySize (instructions : List Instruction) :
    (instructions.length : Int) ≤ bodySize instructions := by
  induction instructions with
  | nil => exact Int.le_refl 0
  | cons head rest ih =>
      have first := three_add_le_instructionSize head
      simp only [bodySize, List.length_cons]
      omega

theorem instructionSize_le_bodySize {instructions : List Instruction} {instruction : Instruction}
    (member : instruction ∈ instructions) : instructionSize instruction ≤ bodySize instructions := by
  induction instructions with
  | nil => simp at member
  | cons head rest ih =>
      have first := three_add_le_instructionSize head
      have later := length_le_bodySize rest
      simp only [bodySize]
      rcases List.mem_cons.1 member with rfl | inRest
      · omega
      · have smaller := ih inRest
        omega

/-- Instructions inside a transaction within the limit have no count of more than two bytes. -/
theorem twoByteCounts_of_bodySize_le {instructions : List Instruction}
    (fits : bodySize instructions ≤ maxTransactionSize) : TwoByteCounts instructions := by
  simp only [maxTransactionSize] at fits
  constructor
  · have count := length_le_bodySize instructions
    omega
  · intro instruction member
    have whole := instructionSize_le_bodySize member
    have parts := three_add_le_instructionSize instruction
    omega

end SolanaTransactions
