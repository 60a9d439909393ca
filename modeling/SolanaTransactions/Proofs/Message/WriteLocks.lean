/-
Module: SolanaTransactions.Proofs.Message.WriteLocks
Purpose: The accounts by which a transaction is priced are those that its message write-locks.
Main exports:
  Instruction.writableUses, distinctKeys_pairwise, Draft.writes_iff, Draft.exists_lockedAccounts,
  writableKeys_writeLocked
-/
import Mathlib.Data.List.Induction
import SolanaTransactions.Proofs.Message.ReadBack

namespace SolanaTransactions

/-!
The keys that instructions write are collected by a scan over their uses, one
instruction after the other.  A message tells its writable accounts by the counts
of its header and by the two halves of its lookups, over roles that are merged
from all instructions.  Both mean the same keys, because every account of a
message is listed with the roles that its key has in the draft; only the payer is
locked without a use.
-/

/-! ### The scan -/

/-- The keys of all writable uses, one instruction after the other. -/
def Instruction.writableUses (instructions : List Instruction) : List Key :=
  instructions.flatMap fun instruction =>
    (instruction.accounts.filter (·.writable)).map (·.key)

/-- The keys of a list, each once, in the order in which they first occur. -/
def distinctKeys (uses : List Key) : List Key :=
  uses.foldl (fun seen key => if key ∈ seen then seen else seen ++ [key]) []

theorem Instruction.writableKeys_eq (instructions : List Instruction) :
    writableKeys instructions = distinctKeys (writableUses instructions) := rfl

theorem distinctKeys_concat (uses : List Key) (key : Key) :
    distinctKeys (uses ++ [key]) =
      if key ∈ distinctKeys uses then distinctKeys uses else distinctKeys uses ++ [key] := by
  rw [distinctKeys, List.foldl_append]
  rfl

theorem mem_distinctKeys {uses : List Key} {key : Key} : key ∈ distinctKeys uses ↔ key ∈ uses := by
  induction uses using List.reverseRecOn with
  | nil => simp [distinctKeys]
  | append_singleton uses last ih =>
      rw [distinctKeys_concat, List.mem_append, List.mem_singleton, ← ih]
      split
      · next known =>
          constructor
          · exact Or.inl
          · rintro (member | rfl)
            · exact member
            · exact known
      · simp

/-- Of two keys, the one that occurs first stands first. -/
theorem distinctKeys_pairwise (uses : List Key) :
    (distinctKeys uses).Pairwise fun first second => uses.idxOf first < uses.idxOf second := by
  induction uses using List.reverseRecOn with
  | nil => simp [distinctKeys]
  | append_singleton uses last ih =>
      -- A key that is known already keeps its place when the list goes on.
      have place : ∀ key ∈ distinctKeys uses, (uses ++ [last]).idxOf key = uses.idxOf key :=
        fun key member => List.idxOf_append_of_mem (mem_distinctKeys.1 member)
      have before : (distinctKeys uses).Pairwise fun first second =>
          (uses ++ [last]).idxOf first < (uses ++ [last]).idxOf second := by
        apply ih.imp_of_mem
        intro first second inFirst inSecond earlier
        rw [place first inFirst, place second inSecond]
        exact earlier
      rw [distinctKeys_concat]
      split
      · exact before
      · next fresh =>
          apply List.pairwise_append.2
          refine ⟨before, List.pairwise_singleton _ _, ?_⟩
          intro first inFirst second inLast
          obtain rfl := List.mem_singleton.1 inLast
          rw [place first inFirst, List.idxOf_append_of_notMem (mt mem_distinctKeys.2 fresh)]
          have inside := List.idxOf_lt_length_of_mem (mem_distinctKeys.1 inFirst)
          omega

theorem distinctKeys_nodup (uses : List Key) : (distinctKeys uses).Nodup := by
  apply (distinctKeys_pairwise uses).imp
  rintro key _ earlier rfl
  exact Nat.lt_irrefl _ earlier

theorem Instruction.mem_writableKeys_iff {instructions : List Instruction} {key : Key} :
    key ∈ writableKeys instructions ↔ ∃ instruction ∈ instructions,
      ∃ account ∈ instruction.accounts, account.key = key ∧ account.writable = true := by
  rw [writableKeys_eq, mem_distinctKeys, writableUses, List.mem_flatMap]
  simp only [List.mem_map, List.mem_filter]
  constructor
  · rintro ⟨instruction, member, account, ⟨used, writable⟩, same⟩
    exact ⟨instruction, member, account, used, same, writable⟩
  · rintro ⟨instruction, member, account, used, same, writable⟩
    exact ⟨instruction, member, account, ⟨used, writable⟩, same⟩

/-! ### The locks of a message -/

namespace Draft

variable {draft : Draft} {tables : List LookupTable} {blockhash : Blockhash} {message : Message}

/-- A key may be written to when it is the payer or has a writable use. -/
theorem writes_iff {key : Key} :
    draft.writes key = true ↔
      key = draft.payer ∨ key ∈ Instruction.writableKeys draft.instructions := by
  rw [writes, Bool.or_eq_true, beq_iff_eq, uses_iff, Instruction.mem_writableKeys_iff]

theorem mem_keys_of_writes {key : Key} (writes : draft.writes key = true) : key ∈ draft.keys := by
  rcases writes_iff.1 writes with rfl | used
  · exact draft.payer_mem_keys
  · obtain ⟨instruction, member, account, inAccounts, rfl, _⟩ :=
      Instruction.mem_writableKeys_iff.1 used
    exact account_mem_keys member inAccounts

/-- A reader who holds all tables knows every account by its key. -/
theorem labelWith_self (key : Key) : draft.labelWith tables tables key = .key key := by
  cases loader : draft.loader? tables key with
  | none => exact labelWith_of_unloaded loader
  | some table => exact labelWith_of_given loader (loader?_eq_some loader).1

/-- A reader who holds all tables finds the keys that a draft writes listed as writable, and no other
account. -/
theorem exists_lockedAccounts (distinct : (tables.map (·.key)).Nodup)
    (compiled : draft.compile tables blockhash = .ok message) :
    ∃ accounts, message.accounts tables = .ok accounts ∧ ∀ label,
      (∃ account ∈ accounts, account.label = label ∧ account.writable = true) ↔
        ∃ key, label = .key key ∧ draft.writes key = true := by
  obtain ⟨order, numbering⟩ := exists_numbering distinct compiled
  refine ⟨_, numbering.accounts tables (List.Subset.refl tables), fun label => ?_⟩
  constructor
  · rintro ⟨account, inAccounts, rfl, writable⟩
    obtain ⟨key, _, rfl⟩ := List.mem_map.1 inAccounts
    exact ⟨key, labelWith_self key, writable⟩
  · rintro ⟨key, rfl, writes⟩
    have listed : draft.listed tables tables key ∈ order.map (draft.listed tables tables) :=
      List.mem_map_of_mem (numbering.covers key (mem_keys_of_writes writes))
    exact ⟨_, listed, labelWith_self key, writes⟩

end Draft

/-- The accounts that instructions write are collected once each, in the order of their first writable
use.  Together with the payer they are the accounts that the compiled message marks as writable, the
stored ones and those behind its lookups. -/
theorem writableKeys_writeLocked {payer : Key} {instructions : List Instruction}
    {tables : List LookupTable} {blockhash : Blockhash} {message : Message}
    (distinct : (tables.map (·.key)).Nodup)
    (compiled : (⟨payer, instructions⟩ : Draft).compile tables blockhash = .ok message) :
    let priced := Instruction.writableKeys instructions
    let uses := Instruction.writableUses instructions
    priced.Nodup ∧
      priced.Pairwise (fun first second => uses.idxOf first < uses.idxOf second) ∧
      (∀ key, key ∈ priced ↔ ∃ instruction ∈ instructions, ∃ account ∈ instruction.accounts,
        account.key = key ∧ account.writable = true) ∧
      ∃ accounts, message.accounts tables = .ok accounts ∧ ∀ label,
        (∃ account ∈ accounts, account.label = label ∧ account.writable = true) ↔
          ∃ key, label = .key key ∧ (key = payer ∨ key ∈ priced) := by
  intro priced uses
  obtain ⟨accounts, listed, locked⟩ := Draft.exists_lockedAccounts distinct compiled
  refine ⟨distinctKeys_nodup uses, distinctKeys_pairwise uses,
    fun key => Instruction.mem_writableKeys_iff, accounts, listed, fun label => ?_⟩
  rw [locked label]
  apply exists_congr
  intro key
  rw [Draft.writes_iff]

/-- Tables that hold a signer, a called program and accounts with uses of both kinds. -/
def awkwardTables : List LookupTable :=
  [⟨Key.ofNat 5000, [Key.ofNat 8, Key.ofNat 900, Key.ofNat 1]⟩,
    ⟨Key.ofNat 6000, [Key.ofNat 4, Key.ofNat 7]⟩]

/-- A call that writes to its own program, a key that is read first and written later, one the other
way round, and a signer that is written by a call for which it need not sign. -/
def awkwardCalls : List Instruction :=
  [⟨Key.ofNat 900, [⟨Key.ofNat 1, false, true⟩, ⟨Key.ofNat 4, false, false⟩,
      ⟨Key.ofNat 8, true, false⟩, ⟨Key.ofNat 900, false, true⟩], [1]⟩,
    ⟨Key.ofNat 901, [⟨Key.ofNat 4, false, true⟩, ⟨Key.ofNat 8, false, true⟩,
      ⟨Key.ofNat 1, false, false⟩, ⟨Key.ofNat 9, false, false⟩], []⟩]

theorem writableKeys_writeLocked_awkward :
    (awkwardTables.map (·.key)).Nodup ∧
      Instruction.writableKeys awkwardCalls = [1, 900, 4, 8].map Key.ofNat ∧
      ∃ message accounts,
        (⟨Key.ofNat 7, awkwardCalls⟩ : Draft).compile awkwardTables Blockhash.zero = .ok message ∧
        message.accounts awkwardTables = .ok accounts ∧
        ∀ label, (∃ account ∈ accounts, account.label = label ∧ account.writable = true) ↔
          ∃ key, label = .key key ∧
            (key = Key.ofNat 7 ∨ key ∈ [1, 900, 4, 8].map Key.ofNat) := by
  have distinct : (awkwardTables.map (·.key)).Nodup := by decide +kernel
  have priced : Instruction.writableKeys awkwardCalls = [1, 900, 4, 8].map Key.ofNat := by
    decide +kernel
  obtain ⟨message, compiled⟩ : ∃ message,
      (⟨Key.ofNat 7, awkwardCalls⟩ : Draft).compile awkwardTables Blockhash.zero = .ok message := by
    apply Draft.exists_compile
    · decide +kernel
    · decide +kernel
  obtain ⟨_, _, _, accounts, listed, locked⟩ := writableKeys_writeLocked distinct compiled
  rw [priced] at locked
  exact ⟨distinct, priced, message, accounts, compiled, listed, locked⟩

end SolanaTransactions
