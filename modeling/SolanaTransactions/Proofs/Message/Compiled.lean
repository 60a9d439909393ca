/-
Module: SolanaTransactions.Proofs.Message.Compiled
Purpose: What a compiled message holds, in counts over the keys of its draft, and when a draft has
  a message.
Main exports:
  Draft.compile_eq_ok, Draft.CompiledTo, Draft.compiledTo_of_compile, Draft.length_lookups_le,
  Draft.exists_compile
-/
import SolanaTransactions.Proofs.KeySet
import SolanaTransactions.Proofs.Message.Roles
import SolanaTransactions.Proofs.Message.TableLoading
import SolanaTransactions.Proofs.Message.WireLength

namespace SolanaTransactions.Draft

variable {draft : Draft} {tables : List LookupTable} {blockhash : Blockhash} {message : Message}

theorem payer_mem_keys (draft : Draft) : draft.payer ∈ draft.keys.toList := by
  rw [← KeySet.mem_def, keys, KeySet.mem_ofList]
  exact List.mem_cons_self

/-- A key that signs is never loaded. -/
theorem loadsFromAny_eq_false_of_signs {key : Key} (signs : draft.signs key = true)
    (tables : List LookupTable) : draft.loadsFromAny tables key = false := by
  simp [loadsFromAny, loadsFrom, mayLoad, signs]

/-- The keys of a draft that some tables leave to be stored. -/
def storedWith (draft : Draft) (tables : List LookupTable) : List Key :=
  draft.keys.toList.filter fun key => !draft.loadsFromAny tables key

theorem storedWith_nodup (draft : Draft) (tables : List LookupTable) :
    (draft.storedWith tables).Nodup :=
  draft.keys.nodup.filter _

theorem payer_mem_storedWith (draft : Draft) (tables : List LookupTable) :
    draft.payer ∈ draft.storedWith tables := by
  apply List.mem_filter.2
  rw [loadsFromAny_eq_false_of_signs draft.signs_payer]
  exact ⟨draft.payer_mem_keys, rfl⟩

theorem filter_signs_storedWith (draft : Draft) (tables : List LookupTable) :
    (draft.storedWith tables).filter draft.signs = draft.keys.toList.filter draft.signs := by
  rw [storedWith, List.filter_filter]
  apply List.filter_congr
  intro key _
  cases signs : draft.signs key with
  | false => rfl
  | true => rw [loadsFromAny_eq_false_of_signs signs]; rfl

/-- A message is what the tables load and the body over the keys that they leave. -/
theorem compile_eq_ok (compiled : draft.compile tables blockhash = .ok message) :
    ∃ loaded body,
      draft.loadTables tables draft.keys.toList = .ok (loaded, draft.storedWith tables) ∧
      draft.compileBody blockhash (draft.storedWith tables)
        (loaded.flatMap (·.writable) ++ loaded.flatMap (·.readonly)) = .ok body ∧
      message = .v0 body (loaded.map (·.lookup)) := by
  rw [compile, bind_eq_ok_iff] at compiled
  obtain ⟨⟨loaded, stored⟩, loading, rest⟩ := compiled
  obtain ⟨body, compiledBody, done⟩ := bind_eq_ok_iff.1 rest
  obtain rfl : stored = draft.storedWith tables := loadTables_left loading
  exact ⟨loaded, body, loading, compiledBody, (pure_eq_ok_iff.1 done).symm⟩

/-- The counts of a message over the keys of the draft that it was compiled from. -/
structure CompiledTo (draft : Draft) (tables : List LookupTable) (message : Message) : Prop where
  versionZero : ∃ body lookups, message = .v0 body lookups
  signers : message.requiredSignatures = (draft.keys.toList.filter draft.signs).length
  stored : message.body.keys.length = (draft.storedWith tables).length
  accounts : message.accountCount = draft.keys.size
  capacity : message.accountCount ≤ 256
  instructions : ∃ order, message.body.instructions =
    draft.instructions.map (compileInstruction order)
  lookupCount : message.lookups.length ≤ message.loadedCount
  lookups : draft.EachLoads tables draft.keys.toList →
    message.lookups.map (·.table) = tables.map (·.key)

theorem length_flatMap_loaded (loaded : List LoadedTable) :
    (loaded.flatMap (·.writable) ++ loaded.flatMap (·.readonly)).length =
      (loaded.map LoadedTable.count).sum := by
  induction loaded with
  | nil => rfl
  | cons first later ih =>
      simp only [List.length_append, List.flatMap_cons, List.map_cons, List.sum_cons,
        LoadedTable.count] at ih ⊢
      omega

theorem compiledTo_of_compile (compiled : draft.compile tables blockhash = .ok message) :
    draft.CompiledTo tables message := by
  obtain ⟨loaded, body, loading, compiledBody, rfl⟩ := compile_eq_ok compiled
  have nodup := draft.storedWith_nodup tables
  have member := draft.payer_mem_storedWith tables
  obtain ⟨order, signers, instructions, capacity⟩ := compileBody_eq_ok nodup member compiledBody
  have storedLength : body.keys.length = (draft.storedWith tables).length := by
    rw [order]
    exact (storedOrder_perm nodup member).length_eq
  have loadedLength : Message.loadedCount (.v0 body (loaded.map (·.lookup))) =
      (loaded.map LoadedTable.count).sum := by
    rw [Message.loadedCount, Message.lookups, List.map_map]
    exact congrArg List.sum (List.map_congr_left (loadTables_length_lookup loading))
  have total := loadTables_count loading
  have accounts : Message.accountCount (.v0 body (loaded.map (·.lookup))) = draft.keys.size := by
    rw [Message.accountCount, loadedLength, KeySet.size, ← total, Message.body, storedLength]
    exact Nat.add_comm _ _
  rw [length_flatMap_loaded, ← loadedLength] at capacity
  refine ⟨⟨body, _, rfl⟩, ?_, storedLength, accounts, capacity, ⟨_, instructions⟩, ?_, ?_⟩
  · rw [← draft.filter_signs_storedWith tables]
    exact signers
  · rw [loadedLength, Message.lookups, List.length_map]
    exact loadTables_length_le loading
  · intro each
    rw [Message.lookups, List.map_map]
    exact loadTables_tables each loading

theorem blockhash_of_compile (compiled : draft.compile tables blockhash = .ok message) :
    message.body.blockhash = blockhash := by
  obtain ⟨loaded, body, _, compiledBody, rfl⟩ := compile_eq_ok compiled
  exact (header_of_compileBody compiledBody).2.2.2

/-- A draft with at most 255 accounts compiles with any tables whose indexes fit in a byte. -/
theorem exists_compile (blockhash : Blockhash) (few : draft.keys.size ≤ 255)
    (small : ∀ table ∈ tables, table.addresses.length ≤ 256) :
    ∃ message, draft.compile tables blockhash = .ok message := by
  obtain ⟨loaded, stored, loading⟩ := exists_loadTables draft small draft.keys.toList
  obtain rfl : stored = draft.storedWith tables := loadTables_left loading
  have total := loadTables_count loading
  rw [← length_flatMap_loaded] at total
  rw [KeySet.size, ← total, Nat.add_comm] at few
  obtain ⟨body, compiledBody⟩ := exists_compileBody blockhash (draft.storedWith_nodup tables)
    (draft.payer_mem_storedWith tables) few
  rw [compile]
  exact ⟨_, bind_eq_ok_iff.2 ⟨_, loading, bind_eq_ok_iff.2 ⟨_, compiledBody, rfl⟩⟩⟩

end SolanaTransactions.Draft
