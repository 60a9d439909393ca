/-
Module: SolanaTransactions.Proofs.Message.ReadBack
Purpose: The summary of a compiled transaction tells the instructions that it was compiled from.
Main exports: Draft.ShownAs, Draft.ToldBy, summarize_compile
-/
import SolanaTransactions.Proofs.Message.Listing
import SolanaTransactions.Proofs.Text.Base64
import SolanaTransactions.Transaction.Summary

namespace SolanaTransactions

/-!
Compilation replaces keys by their places in a numbering of the accounts, and a
summary looks the places up in the list of accounts.  The list is the numbering
with every key shown by its label and roles, so what is looked up at the place
of a key is the key.
-/

/-- A key of a draft as an account of its message, for a reader who holds some of the tables. -/
structure Draft.ShownAs (draft : Draft) (tables given : List LookupTable) (message : Message)
    (key : Key) (shown : ListedAccount) : Prop where
  signer : shown.signer = true ↔ key = draft.payer ∨ ∃ instruction ∈ draft.instructions,
    ∃ account ∈ instruction.accounts, account.key = key ∧ account.signer = true
  writable : shown.writable = true ↔ key = draft.payer ∨ ∃ instruction ∈ draft.instructions,
    ∃ account ∈ instruction.accounts, account.key = key ∧ account.writable = true
  named : (∀ table ∈ tables, draft.loader? tables key = some table → table ∈ given) →
    shown.label = .key key
  placed : ∀ table, draft.loader? tables key = some table → table ∉ given →
    ∃ index, draft.LoadedBy message key table index ∧
      shown.label.text = table.key.text ++ "[" ++ toString index.toNat ++ "]"

/-- An instruction of a draft as a summary tells it. -/
structure Draft.ToldBy (draft : Draft) (tables given : List LookupTable) (message : Message)
    (instruction : Instruction) (told : InstructionSummary) : Prop where
  program : told.program = .key instruction.program
  accounts : List.Forall₂ (fun account shown =>
    draft.ShownAs tables given message account.key shown) instruction.accounts told.accounts
  data : told.data = instruction.data
  text : Base64.decode? told.dataText = some instruction.data

namespace Draft

variable {draft : Draft} {tables given : List LookupTable} {blockhash : Blockhash}
  {message : Message} {order : List Key}

theorem uses_iff {test : AccountMeta → Bool} {key : Key} :
    draft.uses test key = true ↔ ∃ instruction ∈ draft.instructions,
      ∃ account ∈ instruction.accounts, account.key = key ∧ test account = true := by
  simp only [uses, List.any_eq_true, Bool.and_eq_true, beq_iff_eq]

theorem shownAs_listed {key : Key} (compiled : draft.compile tables blockhash = .ok message)
    (member : key ∈ draft.keys) :
    draft.ShownAs tables given message key (draft.listed tables given key) where
  signer := by
    rw [listed, signs, Bool.or_eq_true, beq_iff_eq, uses_iff]
  writable := by
    rw [listed, writes, Bool.or_eq_true, beq_iff_eq, uses_iff]
  named := by
    intro allGiven
    cases loader : draft.loader? tables key with
    | none => exact labelWith_of_unloaded loader
    | some table =>
        exact labelWith_of_given loader (allGiven table (loader?_eq_some loader).1 loader)
  placed := by
    intro table loader withheld
    refine ⟨_, loadedBy_of_compile compiled member loader, ?_⟩
    rw [listed, labelWith_of_withheld loader withheld, AccountLabel.text]

theorem loader?_of_invokes {key : Key} (invoked : draft.invokes key = true) :
    draft.loader? tables key = none := by
  rw [loader?_eq_none_iff, loadsFromAny, List.any_eq_false]
  intro table _
  simp [loadsFrom, mayLoad, invoked]

theorem program_mem_keys {instruction : Instruction} (member : instruction ∈ draft.instructions) :
    instruction.program ∈ draft.keys := by
  rw [keys, KeySet.mem_ofList]
  exact List.mem_cons_of_mem _ (List.mem_flatMap_of_mem member List.mem_cons_self)

theorem account_mem_keys {instruction : Instruction} {account : AccountMeta}
    (member : instruction ∈ draft.instructions) (used : account ∈ instruction.accounts) :
    account.key ∈ draft.keys := by
  rw [keys, KeySet.mem_ofList]
  exact List.mem_cons_of_mem _ (List.mem_flatMap_of_mem member
    (List.mem_cons_of_mem _ (List.mem_map_of_mem used)))

end Draft

/-- The account at the place of a key in a numbering is what the list has for the key. -/
theorem ListedAccount.at_idxOf {order : List Key} (entry : Key → ListedAccount) {key : Key}
    (small : order.length ≤ 256) (member : key ∈ order) :
    ListedAccount.at (order.map entry) (UInt8.ofNat (order.idxOf key)).toNat = .ok (entry key) := by
  have place := List.idxOf_lt_length_of_mem member
  rw [ListedAccount.at, UInt8.toNat_ofNat_of_lt' (Nat.lt_of_lt_of_le place small),
    List.getElem?_map, List.getElem?_idxOf member]
  rfl

theorem summarize_compileInstruction {order : List Key} (entry : Key → ListedAccount)
    {instruction : Instruction} (small : order.length ≤ 256) (program : instruction.program ∈ order)
    (accounts : ∀ account ∈ instruction.accounts, account.key ∈ order) :
    (Draft.compileInstruction order instruction).summarize (order.map entry) =
      .ok ⟨(entry instruction.program).label,
        instruction.accounts.map fun account => entry account.key, instruction.data⟩ := by
  have used : (instruction.accounts.map fun account => UInt8.ofNat (order.idxOf account.key)).mapM
      (fun position => ListedAccount.at (order.map entry) position.toNat) =
        .ok (instruction.accounts.map fun account => entry account.key) := by
    rw [mapM_eq_ok_iff, List.forall₂_map_left_iff, List.forall₂_map_right_iff, List.forall₂_same]
    intro account member
    exact ListedAccount.at_idxOf entry small (accounts account member)
  simp only [CompiledInstruction.summarize, Draft.compileInstruction,
    ListedAccount.at_idxOf entry small program, used]
  rfl

namespace Draft

variable {draft : Draft} {tables given : List LookupTable} {blockhash : Blockhash}
  {message : Message} {order : List Key}

/-- An instruction of a draft with each of its keys labelled and given its roles. -/
def told (draft : Draft) (tables given : List LookupTable) (instruction : Instruction) :
    InstructionSummary :=
  { program := .key instruction.program
    accounts := instruction.accounts.map fun account => draft.listed tables given account.key
    data := instruction.data }

theorem toldBy_told {instruction : Instruction}
    (compiled : draft.compile tables blockhash = .ok message)
    (member : instruction ∈ draft.instructions) :
    draft.ToldBy tables given message instruction (draft.told tables given instruction) where
  program := rfl
  accounts := by
    rw [told, List.forall₂_map_right_iff, List.forall₂_same]
    intro account used
    exact shownAs_listed compiled (account_mem_keys member used)
  data := rfl
  text := Base64.decode?_encode instruction.data

theorem Numbering.summarize_instructions (numbering : draft.Numbering tables message order) :
    message.body.instructions.mapM
        (CompiledInstruction.summarize (order.map (draft.listed tables given))) =
      .ok (draft.instructions.map (draft.told tables given)) := by
  rw [numbering.instructions, mapM_eq_ok_iff, List.forall₂_map_left_iff,
    List.forall₂_map_right_iff, List.forall₂_same]
  intro instruction member
  have invoked : draft.invokes instruction.program = true :=
    List.any_eq_true.2 ⟨instruction, member, beq_self_eq_true _⟩
  -- A program is called, so no table loads it and its label is its key.
  rw [summarize_compileInstruction _ numbering.small
    (numbering.covers _ (program_mem_keys member))
    fun account used => numbering.covers _ (account_mem_keys member used)]
  rw [listed, labelWith_of_unloaded (loader?_of_invokes invoked)]
  rfl

theorem Numbering.at_stored (numbering : draft.Numbering tables message order) {position : Nat}
    {key : Key} (found : message.body.keys[position]? = some key) :
    ListedAccount.at (order.map (draft.listed tables given)) position =
      .ok ⟨.key key, draft.signs key, draft.writes key⟩ := by
  obtain ⟨loaded, rfl⟩ := numbering.stored
  have inStored := (List.getElem?_eq_some_iff.1 found).1
  rw [ListedAccount.at, List.getElem?_map, List.getElem?_append_left inStored, found,
    Option.map_some, listed,
    labelWith_of_unloaded (numbering.unloaded key (List.mem_of_getElem? found))]

theorem requiredSignatures_le_stored (compiled : draft.compile tables blockhash = .ok message) :
    message.requiredSignatures ≤ message.body.keys.length := by
  have counts := compiledTo_of_compile compiled
  rw [counts.signers, counts.stored, ← filter_signs_storedWith draft tables]
  exact List.length_filter_le _ _

theorem Numbering.summarize_slots (given : List LookupTable)
    (numbering : draft.Numbering tables message order)
    (enough : message.requiredSignatures ≤ message.body.keys.length)
    (signatures : List Signature) :
    ((signatures.take message.requiredSignatures).mapIdx
        fun position signature => (position, signature)).mapM (fun (position, signature) => do
          let holder ← ListedAccount.at (order.map (draft.listed tables given)) position
          return (holder.label, if signature = Signature.blank then none else some signature)) =
      .ok ((message.signerKeys.zip signatures).map fun (key, signature) =>
        (.key key, if signature = Signature.blank then none else some signature)) := by
  rw [mapM_eq_ok_iff, List.forall₂_iff_get]
  refine ⟨?_, ?_⟩
  · simp only [List.length_mapIdx, List.length_take, List.length_map, List.length_zip,
      Message.signerKeys]
    omega
  · intro position before after
    simp only [List.length_mapIdx, List.length_take] at before
    have inStored : position < message.body.keys.length := by omega
    have slot : ListedAccount.at (order.map (draft.listed tables given)) position =
        .ok ⟨.key message.body.keys[position], _, _⟩ :=
      numbering.at_stored (List.getElem?_eq_getElem inStored)
    simp only [List.get_eq_getElem, List.getElem_mapIdx, List.getElem_take, List.getElem_map,
      List.getElem_zip, Message.signerKeys, slot]
    rfl

end Draft

/-- Summarizing undoes compiling: the payer, the instructions in order with their programs, accounts
and data, and every role come back.  A key is shown by itself, unless it was loaded from a table that
the reader does not hold; it is then shown by its place in that table. -/
theorem summarize_compile {draft : Draft} {tables given : List LookupTable} {blockhash : Blockhash}
    {message : Message} (distinct : (tables.map (·.key)).Nodup)
    (compiled : draft.compile tables blockhash = .ok message) (held : given ⊆ tables)
    (signatures : List Signature) :
    ∃ summary, (Transaction.versioned message signatures).summarize given = .ok summary ∧
      summary.payer = .key draft.payer ∧
      summary.blockhash = blockhash ∧
      summary.signatures = ((message.signerKeys.zip signatures).map fun (key, signature) =>
        (.key key, if signature = Signature.blank then none else some signature)) ∧
      List.Forall₂ (draft.ToldBy tables given message) draft.instructions summary.instructions := by
  obtain ⟨order, numbering⟩ := Draft.exists_numbering distinct compiled
  have payer : ListedAccount.at (order.map (draft.listed tables given)) 0 =
      .ok (draft.listed tables given draft.payer) := by
    obtain ⟨others, rfl⟩ := numbering.payerFirst
    rfl
  have payerLabel : draft.labelWith tables given draft.payer = .key draft.payer := by
    apply Draft.labelWith_of_unloaded
    rw [Draft.loader?_eq_none_iff]
    exact Draft.loadsFromAny_eq_false_of_signs draft.signs_payer tables
  have slots := numbering.summarize_slots given
    (Draft.requiredSignatures_le_stored compiled) signatures
  refine ⟨⟨.key draft.payer, message.body.blockhash, _,
    draft.instructions.map (draft.told tables given)⟩, ?summarized, rfl,
    Draft.blockhash_of_compile compiled, rfl, ?instructions⟩
  case summarized =>
    refine bind_eq_ok_iff.2 ⟨_, numbering.accounts given held, bind_eq_ok_iff.2 ⟨_, slots,
      bind_eq_ok_iff.2 ⟨_, numbering.summarize_instructions, bind_eq_ok_iff.2 ⟨_, payer, ?_⟩⟩⟩⟩
    rw [Draft.listed, payerLabel]
    rfl
  case instructions =>
    rw [List.forall₂_map_right_iff, List.forall₂_same]
    exact fun instruction => Draft.toldBy_told compiled

/-- Two tables that repeat addresses, inside the first one and across both. -/
def sharedTables : List LookupTable :=
  [⟨Key.ofNat 5000, [Key.ofNat 1, Key.ofNat 2, Key.ofNat 1]⟩,
    ⟨Key.ofNat 6000, [Key.ofNat 2, Key.ofNat 3, Key.ofNat 4]⟩]

/-- Two calls that use a signer, a stored account and accounts of both tables. -/
def mixedDraft : Draft :=
  ⟨Key.ofNat 7,
    [⟨Key.ofNat 900, [⟨Key.ofNat 1, false, true⟩, ⟨Key.ofNat 4, false, false⟩,
        ⟨Key.ofNat 8, true, false⟩], [1, 2]⟩,
      ⟨Key.ofNat 901, [⟨Key.ofNat 2, false, false⟩, ⟨Key.ofNat 9, false, true⟩,
        ⟨Key.ofNat 3, false, true⟩], []⟩]⟩

theorem summarize_compile_withheld :
    ∃ message summary, mixedDraft.compile sharedTables Blockhash.zero = .ok message ∧
      (Transaction.unsigned message).summarize (sharedTables.take 1) = .ok summary ∧
      summary.payer = .key (Key.ofNat 7) ∧
      List.Forall₂ (mixedDraft.ToldBy sharedTables (sharedTables.take 1) message)
        mixedDraft.instructions summary.instructions := by
  obtain ⟨message, compiled⟩ : ∃ message,
      mixedDraft.compile sharedTables Blockhash.zero = .ok message := by
    apply Draft.exists_compile
    · decide +kernel
    · decide +kernel
  have distinct : (sharedTables.map (·.key)).Nodup := by decide +kernel
  obtain ⟨summary, summarized, payer, _, _, instructions⟩ :=
    summarize_compile distinct compiled (List.take_subset 1 sharedTables)
      (List.replicate message.requiredSignatures Signature.blank)
  exact ⟨message, summary, compiled, summarized, payer, instructions⟩

end SolanaTransactions
