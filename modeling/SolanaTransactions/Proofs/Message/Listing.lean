/-
Module: SolanaTransactions.Proofs.Message.Listing
Purpose: The accounts that a compiled message lists, read off the draft that it was compiled from.
Main exports:
  Draft.labelWith, Draft.listed, Draft.Numbering, Draft.exists_numbering, Draft.LoadedBy,
  Draft.loadedBy_of_compile
-/
import SolanaTransactions.Message.Accounts
import SolanaTransactions.Proofs.Message.Compiled

namespace SolanaTransactions

/-!
A message gives the roles of its stored keys by three counts and those of its
loaded keys by the list that they stand in.  Both tell what the draft says of
the key, so the list of accounts is the list of keys, each with its roles in the
draft.  Where a key is known only by its place, that place is in the first table
that loads it.
-/

theorem mapIdx_eq_map {α β : Type} {change : Nat → α → β} {plain : α → β} {elements : List α}
    (same : ∀ position element, elements[position]? = some element →
      change position element = plain element) :
    elements.mapIdx change = elements.map plain := by
  apply List.ext_getElem?
  intro position
  rw [List.getElem?_mapIdx, List.getElem?_map]
  cases found : elements[position]? with
  | none => rfl
  | some element => exact congrArg some (same position element found)

/-- An element of two lists together stands in the first one or behind it. -/
theorem mem_of_getElem?_append {α : Type} {left right : List α} {position : Nat} {element : α}
    (found : (left ++ right)[position]? = some element) :
    position < left.length ∧ left[position]? = some element ∨
      left.length ≤ position ∧ position < left.length + right.length ∧ element ∈ right := by
  rcases Nat.lt_or_ge position left.length with before | behind
  · rw [List.getElem?_append_left before] at found
    exact Or.inl ⟨before, found⟩
  · rw [List.getElem?_append_right behind] at found
    have inRight := (List.getElem?_eq_some_iff.1 found).1
    exact Or.inr ⟨behind, by omega, List.mem_of_getElem? found⟩

/-- The roles at a position, when the header counts groups of the stored keys: writable and read-only
signers, writable and read-only others. -/
theorem Message.storedAccount_eq {body : MessageBody} {position : Nat} {key : Key}
    {writers readers others rest : Nat} {signer writable : Bool}
    (signers : body.header.requiredSignatures.toNat = writers + readers)
    (readonlySigned : body.header.readonlySigned.toNat = readers)
    (readonlyUnsigned : body.header.readonlyUnsigned.toNat = rest)
    (total : body.keys.length = writers + readers + others + rest)
    (signs : position < writers + readers ↔ signer = true)
    (writes : position < writers ∨
      writers + readers ≤ position ∧ position < writers + readers + others ↔ writable = true) :
    storedAccount body position key = ⟨.key key, signer, writable⟩ := by
  simp only [storedAccount, signers, readonlySigned, readonlyUnsigned, total]
  congr 1
  · rw [Bool.eq_iff_iff, decide_eq_true_iff, ← signs]
    omega
  · rw [Bool.eq_iff_iff, Bool.or_eq_true, Bool.and_eq_true, decide_eq_true_iff,
      decide_eq_true_iff, decide_eq_true_iff, ← writes]
    omega

theorem LookupTable.indexOf_eq_ok {table : LookupTable} {key : Key}
    {index : UInt8} (indexed : table.indexOf key = .ok index) :
    index = UInt8.ofNat (table.addresses.idxOf key) ∧ table.addresses.idxOf key < 256 := by
  simp only [LookupTable.indexOf] at indexed
  split at indexed
  · next small => exact ⟨(Except.ok.inj indexed).symm, small⟩
  · simp at indexed

namespace Draft

variable {draft : Draft} {tables given : List LookupTable} {blockhash : Blockhash}

/-- How a key is known to a reader who has some of the tables at hand. -/
def labelWith (draft : Draft) (tables given : List LookupTable) (key : Key) : AccountLabel :=
  match draft.loader? tables key with
  | none => .key key
  | some table =>
      if table ∈ given then .key key
      else .place table.key (UInt8.ofNat (table.addresses.idxOf key))

/-- A key with its roles in a draft, as a reader with some of the tables at hand knows it. -/
def listed (draft : Draft) (tables given : List LookupTable) (key : Key) : ListedAccount :=
  ⟨draft.labelWith tables given key, draft.signs key, draft.writes key⟩

theorem labelWith_of_unloaded {key : Key} (unloaded : draft.loader? tables key = none) :
    draft.labelWith tables given key = .key key := by
  rw [labelWith, unloaded]

theorem labelWith_of_given {key : Key} {table : LookupTable}
    (loader : draft.loader? tables key = some table) (inGiven : table ∈ given) :
    draft.labelWith tables given key = .key key := by
  simp only [labelWith, loader, if_pos inGiven]

theorem labelWith_of_withheld {key : Key} {table : LookupTable}
    (loader : draft.loader? tables key = some table) (withheld : table ∉ given) :
    draft.labelWith tables given key =
      .place table.key (UInt8.ofNat (table.addresses.idxOf key)) := by
  simp only [labelWith, loader, if_neg withheld]

theorem loader?_eq_some {key : Key} {table : LookupTable}
    (loader : draft.loader? tables key = some table) :
    table ∈ tables ∧ draft.mayLoad key = true ∧ key ∈ table.addresses := by
  have loads := List.find?_some loader
  simp only [loadsFrom, Bool.and_eq_true, List.contains_iff_mem] at loads
  exact ⟨List.mem_of_find?_eq_some loader, loads⟩

/-! ### Stored keys -/

theorem listed_of_mem_withRole {stored : List Key} {key : Key} {signer writable : Bool}
    (unloaded : ∀ key ∈ stored, draft.loader? tables key = none)
    (member : key ∈ draft.withRole stored signer writable) :
    draft.listed tables given key = ⟨.key key, signer, writable⟩ := by
  rw [listed, labelWith_of_unloaded (unloaded key (List.mem_of_mem_filter member)),
    signs_of_mem_withRole member, writes_of_mem_withRole member]

theorem mapIdx_storedAccount {stored loaded : List Key} {body : MessageBody}
    (nodup : stored.Nodup) (member : draft.payer ∈ stored)
    (unloaded : ∀ key ∈ stored, draft.loader? tables key = none)
    (compiled : draft.compileBody blockhash stored loaded = .ok body) :
    body.keys.mapIdx (Message.storedAccount body) = body.keys.map (draft.listed tables given) := by
  obtain ⟨order, _⟩ := compileBody_eq_ok nodup member compiled
  obtain ⟨signers, readonlySigned, readonlyUnsigned, _⟩ := header_of_compileBody compiled
  have total : body.keys.length = 1 + (draft.withRole stored true true).length +
      (draft.withRole stored true false).length + (draft.withRole stored false true).length +
      (draft.withRole stored false false).length := by
    rw [order, storedOrder]
    simp only [List.cons_append, List.length_cons, List.length_append]
    omega
  apply mapIdx_eq_map
  intro position key found
  rw [order, storedOrder] at found
  -- The groups of the order are taken off from its end, and the position tells the group.
  rcases mem_of_getElem?_append found with ⟨_, found⟩ | ⟨behind, within, inGroup⟩
  · rcases mem_of_getElem?_append found with ⟨_, found⟩ | ⟨behind, within, inGroup⟩
    · rcases mem_of_getElem?_append found with ⟨first, found⟩ | ⟨behind, within, inGroup⟩
      · have role : draft.listed tables given key = ⟨.key key, true, true⟩ := by
          rcases List.mem_cons.1 (List.mem_of_getElem? found) with rfl | inGroup
          · rw [listed, labelWith_of_unloaded (unloaded _ member), signs_payer, writes_payer]
          · exact listed_of_mem_withRole unloaded inGroup
        rw [List.length_cons] at first
        rw [role]
        exact Message.storedAccount_eq signers readonlySigned readonlyUnsigned total
          (iff_of_true (by omega) rfl) (iff_of_true (by omega) rfl)
      · rw [List.length_cons] at behind within
        rw [listed_of_mem_withRole unloaded inGroup]
        exact Message.storedAccount_eq signers readonlySigned readonlyUnsigned total
          (iff_of_true (by omega) rfl) (iff_of_false (by omega) Bool.false_ne_true)
    · simp only [List.cons_append, List.length_cons, List.length_append] at behind within
      rw [listed_of_mem_withRole unloaded inGroup]
      exact Message.storedAccount_eq signers readonlySigned readonlyUnsigned total
        (iff_of_false (by omega) Bool.false_ne_true) (iff_of_true (by omega) rfl)
  · simp only [List.cons_append, List.length_cons, List.length_append] at behind within
    rw [listed_of_mem_withRole unloaded inGroup]
    exact Message.storedAccount_eq signers readonlySigned readonlyUnsigned total
      (iff_of_false (by omega) Bool.false_ne_true) (iff_of_false (by omega) Bool.false_ne_true)

/-! ### Loaded keys -/

theorem not_signs_of_mayLoad {key : Key} (free : draft.mayLoad key = true) :
    draft.signs key = false := by
  simp only [mayLoad, Bool.and_eq_true, Bool.not_eq_true'] at free
  exact free.1

/-- Reading a lookup back names the key that was loaded through it. -/
theorem lookupLabel_eq (distinct : (tables.map (·.key)).Nodup) (held : given ⊆ tables)
    {key : Key} {table : LookupTable} {index : UInt8}
    (loader : draft.loader? tables key = some table) (indexed : table.indexOf key = .ok index) :
    Message.lookupLabel given table.key index = .ok (draft.labelWith tables given key) := by
  obtain ⟨listed, _, holds⟩ := loader?_eq_some loader
  obtain ⟨rfl, small⟩ := LookupTable.indexOf_eq_ok indexed
  have sameTable : ∀ other ∈ given, other.key = table.key → other = table :=
    fun other member => List.inj_on_of_nodup_map distinct (held member) listed
  have place : (UInt8.ofNat (table.addresses.idxOf key)).toNat = table.addresses.idxOf key :=
    UInt8.toNat_ofNat_of_lt' small
  by_cases inGiven : table ∈ given
  · have found : given.reverse.find? (fun other => other.key == table.key) = some table := by
      cases search : given.reverse.find? (fun other => other.key == table.key) with
      | none =>
          have missed := List.find?_eq_none.1 search table (List.mem_reverse.2 inGiven)
          simp at missed
      | some other =>
          have member := List.mem_reverse.1 (List.mem_of_find?_eq_some search)
          have same := List.find?_some search
          rw [sameTable other member (beq_iff_eq.1 same)]
    have address : table.addresses[table.addresses.idxOf key]? = some key :=
      List.getElem?_idxOf holds
    simp only [Message.lookupLabel, found, place, address, labelWith_of_given loader inGiven]
  · have missing : given.reverse.find? (fun other => other.key == table.key) = none := by
      apply List.find?_eq_none.2
      intro other member same
      exact inGiven (sameTable other (List.mem_reverse.1 member) (beq_iff_eq.1 same) ▸
        List.mem_reverse.1 member)
    simp only [Message.lookupLabel, missing, labelWith_of_withheld loader inGiven]

/-- The accounts behind one half of the lookups are the keys of that half. -/
theorem loadedAccounts_eq (distinct : (tables.map (·.key)).Nodup) (held : given ⊆ tables)
    (indexes : TableLookup → Bytes) (half : LoadedTable → List Key) {writable : Bool}
    {loaded : List LoadedTable}
    (each : ∀ entry ∈ loaded, ∃ table, entry.lookup.table = table.key ∧
      (half entry).mapM table.indexOf = .ok (indexes entry.lookup) ∧
      ∀ key ∈ half entry, draft.loader? tables key = some table ∧ draft.writes key = writable) :
    Message.loadedAccounts given indexes writable (loaded.map (·.lookup)) =
      .ok ((loaded.flatMap half).map (draft.listed tables given)) := by
  rw [Message.loadedAccounts, mapM_eq_ok_iff]
  induction loaded with
  | nil => exact List.Forall₂.nil
  | cons entry later ih =>
      obtain ⟨table, tableKey, indexed, roles⟩ := each entry List.mem_cons_self
      rw [List.map_cons, List.flatMap_cons, List.flatMap_cons, List.map_append]
      refine List.rel_append ?_ (ih fun other member => each other (List.mem_cons_of_mem _ member))
      rw [List.forall₂_map_left_iff, List.forall₂_map_right_iff]
      have pairs := (List.forall₂_and_left _ _).2 ⟨roles, mapM_eq_ok_iff.1 indexed⟩
      refine (pairs.imp ?_).flip
      rintro key index ⟨⟨loader, writes⟩, indexOf⟩
      obtain ⟨_, free, _⟩ := loader?_eq_some loader
      dsimp only [flip]
      rw [tableKey, lookupLabel_eq distinct held loader indexOf, listed, writes,
        not_signs_of_mayLoad free]
      rfl

/-! ### All keys -/

/-- A message has a key behind its lookup of a table, in the half of its role and under an index. -/
def LoadedBy (draft : Draft) (message : Message) (key : Key) (table : LookupTable)
    (index : UInt8) : Prop :=
  table.addresses[index.toNat]? = some key ∧ ∃ lookup ∈ message.lookups,
    lookup.table = table.key ∧
      index ∈ if draft.writes key then lookup.writable else lookup.readonly

/-- An order of the accounts of a message by which its instructions number them. -/
structure Numbering (draft : Draft) (tables : List LookupTable) (message : Message)
    (order : List Key) : Prop where
  payerFirst : ∃ others, order = draft.payer :: others
  covers : ∀ key ∈ draft.keys, key ∈ order
  small : order.length ≤ 256
  stored : message.body.keys <+: order
  unloaded : ∀ key ∈ message.body.keys, draft.loader? tables key = none
  instructions : message.body.instructions = draft.instructions.map (compileInstruction order)
  accounts : ∀ given ⊆ tables,
    message.accounts given = .ok (order.map (draft.listed tables given))

theorem loader?_of_mem_storedWith {key : Key} (member : key ∈ draft.storedWith tables) :
    draft.loader? tables key = none := by
  have free := (List.mem_filter.1 member).2
  rw [Bool.not_eq_true'] at free
  exact loader?_eq_none_iff.2 free

theorem mem_numbering {loaded : List LoadedTable} {key : Key}
    (loading : draft.loadTables tables draft.keys.toList = .ok (loaded, draft.storedWith tables))
    (member : key ∈ draft.keys) :
    key ∈ draft.storedOrder (draft.storedWith tables) ++
      (loaded.flatMap (·.writable) ++ loaded.flatMap (·.readonly)) := by
  rw [List.mem_append, (storedOrder_perm (draft.storedWith_nodup tables)
    (draft.payer_mem_storedWith tables)).mem_iff, List.mem_append, List.mem_flatMap,
    List.mem_flatMap]
  rcases mem_left_or_loaded loading key member with left | ⟨entry, listed, writable | readonly⟩
  · exact Or.inl left
  · exact Or.inr (Or.inl ⟨entry, listed, writable⟩)
  · exact Or.inr (Or.inr ⟨entry, listed, readonly⟩)

theorem accounts_eq {loaded : List LoadedTable} {body : MessageBody}
    (distinct : (tables.map (·.key)).Nodup) (held : given ⊆ tables)
    (loading : draft.loadTables tables draft.keys.toList = .ok (loaded, draft.storedWith tables))
    (compiled : draft.compileBody blockhash (draft.storedWith tables)
      (loaded.flatMap (·.writable) ++ loaded.flatMap (·.readonly)) = .ok body) :
    (Message.v0 body (loaded.map (·.lookup))).accounts given =
      .ok ((body.keys ++ (loaded.flatMap (·.writable) ++ loaded.flatMap (·.readonly))).map
        (draft.listed tables given)) := by
  have stored : body.keys.mapIdx (Message.storedAccount body) =
      body.keys.map (draft.listed tables given) :=
    mapIdx_storedAccount (draft.storedWith_nodup tables) (draft.payer_mem_storedWith tables)
      (fun _ => loader?_of_mem_storedWith) compiled
  have writable := loadedAccounts_eq distinct held (·.writable) (·.writable) (by
    intro entry listed
    obtain ⟨table, _, ⟨rest, loads⟩, first⟩ := loads_of_mem_loadTables loading entry listed
    refine ⟨table, loads.tableKey, loads.writableIndexes, ?_⟩
    intro key inEntry
    exact ⟨(first key (List.mem_append_left _ inEntry)).2, (loads.mem_writable_iff.1 inEntry).2⟩)
  have readonly := loadedAccounts_eq distinct held (·.readonly) (·.readonly) (by
    intro entry listed
    obtain ⟨table, _, ⟨rest, loads⟩, first⟩ := loads_of_mem_loadTables loading entry listed
    refine ⟨table, loads.tableKey, loads.readonlyIndexes, ?_⟩
    intro key inEntry
    exact ⟨(first key (List.mem_append_right _ inEntry)).2, (loads.mem_readonly_iff.1 inEntry).2⟩)
  rw [Message.accounts, Message.body, Message.lookups, stored, writable, readonly,
    List.map_append, List.map_append, ← List.append_assoc]
  rfl

theorem exists_numbering {message : Message} (distinct : (tables.map (·.key)).Nodup)
    (compiled : draft.compile tables blockhash = .ok message) :
    ∃ order, draft.Numbering tables message order := by
  obtain ⟨loaded, body, loading, compiledBody, rfl⟩ := compile_eq_ok compiled
  have nodup := draft.storedWith_nodup tables
  have member := draft.payer_mem_storedWith tables
  obtain ⟨keys, _, instructions, capacity⟩ := compileBody_eq_ok nodup member compiledBody
  refine ⟨body.keys ++ (loaded.flatMap (·.writable) ++ loaded.flatMap (·.readonly)), ?_⟩
  exact
    { payerFirst := ⟨_, by rw [keys, storedOrder]; rfl⟩
      covers := fun key inKeys => keys ▸ mem_numbering loading inKeys
      small := by
        rw [List.length_append]
        exact capacity
      stored := List.prefix_append _ _
      unloaded := by
        intro key inStored
        rw [Message.body, keys, (storedOrder_perm nodup member).mem_iff] at inStored
        exact loader?_of_mem_storedWith inStored
      instructions := keys ▸ instructions
      accounts := fun given held => accounts_eq distinct held loading compiledBody }

theorem Loads.exists_index {table : LookupTable} {rest : List Key} {entry : LoadedTable}
    (loads : draft.Loads table rest entry) {key : Key}
    (member : key ∈ entry.writable ∨ key ∈ entry.readonly) :
    ∃ index ∈ if draft.writes key then entry.lookup.writable else entry.lookup.readonly,
      table.indexOf key = .ok index := by
  rcases member with writable | readonly
  · obtain ⟨_, writes⟩ := loads.mem_writable_iff.1 writable
    rw [if_pos writes]
    exact exists_mem_of_mapM_eq_ok loads.writableIndexes writable
  · obtain ⟨_, reads⟩ := loads.mem_readonly_iff.1 readonly
    rw [if_neg (Bool.eq_false_iff.1 reads)]
    exact exists_mem_of_mapM_eq_ok loads.readonlyIndexes readonly

/-- A loaded key stands behind the lookup of its table, under its index there. -/
theorem loadedBy_of_compile {message : Message} {key : Key} {table : LookupTable}
    (compiled : draft.compile tables blockhash = .ok message) (member : key ∈ draft.keys)
    (loader : draft.loader? tables key = some table) :
    draft.LoadedBy message key table (UInt8.ofNat (table.addresses.idxOf key)) := by
  obtain ⟨loaded, body, loading, _, rfl⟩ := compile_eq_ok compiled
  rcases mem_left_or_loaded loading key member with left | ⟨entry, listed, inEntry⟩
  · rw [loader?_of_mem_storedWith left] at loader
    exact absurd loader (by simp)
  · obtain ⟨other, _, ⟨_, loads⟩, first⟩ := loads_of_mem_loadTables loading entry listed
    have sameLoader := (first key (List.mem_append.2 inEntry)).2
    obtain rfl : table = other := Option.some.inj (loader.symm.trans sameLoader)
    obtain ⟨index, inLookup, indexed⟩ := loads.exists_index inEntry
    obtain ⟨rfl, small⟩ := LookupTable.indexOf_eq_ok indexed
    refine ⟨?_, entry.lookup, List.mem_map_of_mem listed, loads.tableKey, inLookup⟩
    rw [UInt8.toNat_ofNat_of_lt' small]
    exact List.getElem?_idxOf (loader?_eq_some loader).2.2

end Draft

end SolanaTransactions
