/-
Module: SolanaTransactions.Proofs.Signing.Required
Purpose: The slots of a compiled message: whose they are, and how keypairs fill them one by one.
Main exports:
  Draft.mem_signerKeys_of_compile, Transaction.SignedBy, Transaction.SignedBy.exists_sign,
  Transaction.SignedBy.sign_eq_error, Transaction.SignedBy.fullySigned,
  Transaction.SignedBy.checkSigned_eq_error
-/
import SolanaTransactions.Proofs.Signing.OneSlot
import SolanaTransactions.Proofs.Signing.Slots
import SolanaTransactions.Proofs.Sizing.Estimate

namespace SolanaTransactions

/-!
Between the unsigned transaction and the signed one there is one picture: every
slot belongs to a key, the slots of the keys that have signed hold a signature of
theirs, and the other slots are blank.  A keypair that signs adds its key to the
picture, and the last check finds the first key that is not in it.
-/

/-! ### Whose the slots are -/

namespace Draft

variable {draft : Draft} {tables : List LookupTable} {blockhash : Blockhash} {message : Message}

/-- The signers of a message are the payer and the two groups of stored keys that sign. -/
theorem signerKeys_of_compile (compiled : draft.compile tables blockhash = .ok message) :
    message.signerKeys =
      draft.payer :: draft.withRole (draft.storedWith tables) true true ++
        draft.withRole (draft.storedWith tables) true false := by
  obtain ⟨loaded, body, _, compiledBody, rfl⟩ := compile_eq_ok compiled
  obtain ⟨keys, _⟩ := compileBody_eq_ok (draft.storedWith_nodup tables)
    (draft.payer_mem_storedWith tables) compiledBody
  obtain ⟨required, _⟩ := header_of_compileBody compiledBody
  rw [Message.signerKeys, Message.requiredSignatures, Message.body, keys, required, storedOrder]
  simp only [List.cons_append, List.append_assoc]
  rw [Nat.add_assoc, Nat.add_comm, List.take_succ_cons, ← List.length_append, ← List.append_assoc,
    List.take_left]

theorem length_signerKeys_of_compile (compiled : draft.compile tables blockhash = .ok message) :
    message.signerKeys.length = message.requiredSignatures := by
  have counts := compiledTo_of_compile compiled
  rw [Message.signerKeys, List.length_take, Nat.min_eq_left]
  rw [counts.signers, counts.stored, ← filter_signs_storedWith draft tables]
  exact List.length_filter_le _ _

theorem nodup_signerKeys_of_compile (compiled : draft.compile tables blockhash = .ok message) :
    message.signerKeys.Nodup := by
  obtain ⟨loaded, body, _, compiledBody, rfl⟩ := compile_eq_ok compiled
  have nodup := draft.storedWith_nodup tables
  have member := draft.payer_mem_storedWith tables
  obtain ⟨keys, _⟩ := compileBody_eq_ok nodup member compiledBody
  have stored : body.keys.Nodup := keys ▸ (storedOrder_perm nodup member).nodup_iff.2 nodup
  exact stored.sublist (List.take_sublist _ _)

/-- The signers of a message are the payer and the keys that some instruction has sign. -/
theorem mem_signerKeys_of_compile (compiled : draft.compile tables blockhash = .ok message)
    {key : Key} : key ∈ message.signerKeys ↔ draft.signs key = true := by
  rw [signerKeys_of_compile compiled]
  constructor
  · intro member
    rcases List.mem_append.1 member with first | readonly
    · rcases List.mem_cons.1 first with rfl | writable
      · exact draft.signs_payer
      · exact signs_of_mem_withRole writable
    · exact signs_of_mem_withRole readonly
  · intro signs
    have stored : key ∈ draft.storedWith tables := by
      apply List.mem_filter.2
      rw [loadsFromAny_eq_false_of_signs signs]
      exact ⟨mem_keys_of_signs draft signs, rfl⟩
    rw [← (storedOrder_perm (draft.storedWith_nodup tables)
      (draft.payer_mem_storedWith tables)).mem_iff, storedOrder, List.mem_append,
      List.mem_append] at stored
    rcases stored with (signers | writable) | readonly
    · exact signers
    · exact absurd signs (Bool.eq_false_iff.1 (signs_of_mem_withRole writable))
    · exact absurd signs (Bool.eq_false_iff.1 (signs_of_mem_withRole readonly))

end Draft

/-! ### How they are filled -/

namespace Transaction

variable {scheme : SignatureScheme} {message : Message} {signed : Key → Bool}
  {transaction : Transaction}

/-- What a slot holds once some keys have signed. -/
def SlotOf (scheme : SignatureScheme) (message : Message) (signed : Key → Bool) (key : Key)
    (signature : Signature) : Prop :=
  if signed key then
    ∃ seed, scheme.publicKey seed = key ∧ signature = scheme.sign seed message.toBytes
  else signature = Signature.blank

/-- A transaction is that of a message which some keys have signed. -/
def SignedBy (scheme : SignatureScheme) (message : Message) (signed : Key → Bool)
    (transaction : Transaction) : Prop :=
  ∃ signatures, transaction = .versioned message signatures ∧
    List.Forall₂ (SlotOf scheme message signed) message.signerKeys signatures

theorem SlotOf.congr {other : Key → Bool} {key : Key} {signature : Signature}
    (same : signed key = other key) (slot : SlotOf scheme message signed key signature) :
    SlotOf scheme message other key signature := by
  rw [SlotOf, ← same]
  exact slot

theorem slots_congr {other : Key → Bool} {keys : List Key} {signatures : List Signature}
    (same : ∀ key ∈ keys, signed key = other key)
    (slots : List.Forall₂ (SlotOf scheme message signed) keys signatures) :
    List.Forall₂ (SlotOf scheme message other) keys signatures :=
  ((List.forall₂_and_left _ _).2 ⟨same, slots⟩).imp fun _ _ both => both.2.congr both.1

theorem SignedBy.congr {other : Key → Bool}
    (same : ∀ key ∈ message.signerKeys, signed key = other key)
    (signedBy : transaction.SignedBy scheme message signed) :
    transaction.SignedBy scheme message other := by
  obtain ⟨signatures, rfl, slots⟩ := signedBy
  exact ⟨signatures, rfl, slots_congr same slots⟩

theorem signedBy_unsigned (scheme : SignatureScheme)
    (enough : message.signerKeys.length = message.requiredSignatures) :
    (unsigned message).SignedBy scheme message fun _ => false := by
  refine ⟨_, rfl, ?_⟩
  rw [← enough]
  induction message.signerKeys with
  | nil => exact .nil
  | cons key rest ih => exact .cons rfl ih

/-- A signature in the slot of its key adds the key to those that have signed. -/
theorem slots_set {keys : List Key} {signatures : List Signature} {seed : Seed} {slot : Nat}
    (nodup : keys.Nodup) (found : keys.idxOf? (scheme.publicKey seed) = some slot)
    (slots : List.Forall₂ (SlotOf scheme message signed) keys signatures) :
    slot < signatures.length ∧
      List.Forall₂ (SlotOf scheme message fun key => signed key || key == scheme.publicKey seed)
        keys (signatures.set slot (scheme.sign seed message.toBytes)) := by
  induction slots generalizing slot with
  | nil => contradiction
  | @cons key signature keys signatures here rest ih =>
      obtain ⟨unused, nodupRest⟩ := List.nodup_cons.1 nodup
      rw [List.idxOf?_cons] at found
      by_cases same : key = scheme.publicKey seed
      · rw [if_pos (beq_iff_eq.2 same)] at found
        obtain rfl := Option.some.inj found
        refine ⟨Nat.zero_lt_succ _, .cons ?_ (slots_congr ?_ rest)⟩
        · have signs : (signed key || key == scheme.publicKey seed) = true := by simp [same]
          rw [SlotOf, if_pos signs]
          exact ⟨seed, same.symm, rfl⟩
        · intro other member
          have differs : (other == scheme.publicKey seed) = false :=
            beq_false_of_ne fun equal => unused (same.trans equal.symm ▸ member)
          rw [differs, Bool.or_false]
      · rw [if_neg (by simpa using same)] at found
        obtain ⟨later, foundRest, rfl⟩ := Option.map_eq_some_iff.1 found
        obtain ⟨within, filled⟩ := ih nodupRest foundRest
        have differs : (key == scheme.publicKey seed) = false := beq_false_of_ne same
        refine ⟨Nat.succ_lt_succ within, .cons (here.congr ?_) filled⟩
        rw [differs, Bool.or_false]

/-- The keypair of a signer signs. -/
theorem SignedBy.exists_sign {seed : Seed} (nodup : message.signerKeys.Nodup)
    (member : scheme.publicKey seed ∈ message.signerKeys)
    (signedBy : transaction.SignedBy scheme message signed) :
    ∃ after, transaction.sign scheme (Keypair.ofSeed scheme seed) = .ok after ∧
      after.SignedBy scheme message fun key => signed key || key == scheme.publicKey seed := by
  obtain ⟨signatures, rfl, slots⟩ := signedBy
  obtain ⟨slot, found⟩ := Option.isSome_iff_exists.1 (List.isSome_idxOf?.2 member)
  obtain ⟨within, filled⟩ := slots_set nodup found slots
  exact ⟨_, sign_eq_ok_iff.2 ⟨slot, ⟨nofun, found, within⟩, rfl⟩, _, rfl, filled⟩

/-- The keypair of anybody else is refused. -/
theorem SignedBy.sign_eq_error {keypair : Keypair} (stranger : keypair.key ∉ message.signerKeys)
    (signedBy : transaction.SignedBy scheme message signed) :
    transaction.sign scheme keypair = .error (.notASigner keypair.key) := by
  obtain ⟨signatures, rfl, _⟩ := signedBy
  exact sign_eq_error_of_notMem signatures stranger

/-! ### What the last check finds -/

theorem SlotOf.filled (honest : scheme.Honest) {key : Key} {signature : Signature}
    (signs : signed key = true) (slot : SlotOf scheme message signed key signature) :
    signature ≠ Signature.blank ∧ scheme.verifies key message.toBytes signature = true := by
  rw [SlotOf, if_pos signs] at slot
  obtain ⟨seed, rfl, rfl⟩ := slot
  exact ⟨honest.sign_ne_blank _ _, honest.verifies_sign _ _⟩

theorem exists_slot {keys : List Key} {signatures : List Signature} {position : Nat}
    {signature : Signature} (slots : List.Forall₂ (SlotOf scheme message signed) keys signatures)
    (present : signatures[position]? = some signature) :
    ∃ key, keys[position]? = some key ∧ SlotOf scheme message signed key signature := by
  have before : position < keys.length :=
    slots.length_eq ▸ (List.getElem?_eq_some_iff.1 present).1
  have held := List.getElem?_eq_getElem before
  exact ⟨_, held, rel_of_getElem? slots held present⟩

theorem SignedBy.slotsSigned (honest : scheme.Honest)
    (complete : ∀ key ∈ message.signerKeys, signed key = true)
    (signedBy : transaction.SignedBy scheme message signed) :
    transaction.SlotsSigned scheme := by
  obtain ⟨signatures, rfl, slots⟩ := signedBy
  intro position signature present
  obtain ⟨key, signer, slot⟩ := exists_slot slots present
  obtain ⟨filled, verifies⟩ := slot.filled honest (complete _ (List.mem_of_getElem? signer))
  exact ⟨key, getElem?_keys_of_signerKeys signer, filled, fun _ => verifies⟩

theorem SignedBy.fullySigned (honest : scheme.Honest)
    (enough : message.signerKeys.length = message.requiredSignatures)
    (complete : ∀ key ∈ message.signerKeys, signed key = true)
    (signedBy : transaction.SignedBy scheme message signed) :
    transaction.FullySigned scheme := by
  have slotsSigned := signedBy.slotsSigned honest complete
  obtain ⟨signatures, rfl, slots⟩ := signedBy
  refine (slotsSigned.fullySigned_iff rfl).2 ?_
  rw [Transaction.message, ← enough, slots.length_eq]
  exact Nat.le_refl _

/-- The check of a transaction names the first key in it that has not signed. -/
theorem SignedBy.checkSigned_eq_error (honest : scheme.Honest) {before after : List Key}
    {key : Key} {index : Nat} (signers : message.signerKeys = before ++ key :: after)
    (complete : ∀ other ∈ before, signed other = true) (absent : signed key = false)
    (signedBy : transaction.SignedBy scheme message signed) :
    transaction.checkSigned scheme index = .error (.signingIncomplete (.missing index key)) := by
  obtain ⟨signatures, rfl, slots⟩ := signedBy
  have signer : message.signerKeys[before.length]? = some key := by
    rw [signers, List.getElem?_append_right (Nat.le_refl _), Nat.sub_self, List.getElem?_cons_zero]
  have behind : before.length < signatures.length :=
    slots.length_eq ▸ (List.getElem?_eq_some_iff.1 signer).1
  have blank : signatures[before.length] = Signature.blank := by
    obtain ⟨other, held, slot⟩ := exists_slot slots (List.getElem?_eq_getElem behind)
    obtain rfl := Option.some.inj (signer.symm.trans held)
    rw [SlotOf, if_neg (Bool.eq_false_iff.1 absent)] at slot
    exact slot
  have early : (signatures.take before.length).length = before.length :=
    List.length_take_of_le (Nat.le_of_lt behind)
  rw [checkSigned, checkSlots, Transaction.signatures, ← List.take_append_drop before.length signatures,
    List.drop_eq_getElem_cons behind]
  apply checkFrom_eq_error
  case key => exact key
  case passes =>
    intro offset signature present
    obtain ⟨within, present⟩ := Option.ite_none_right_eq_some.1 (List.getElem?_take ▸ present)
    obtain ⟨other, held, slot⟩ := exists_slot slots present
    have member : other ∈ before := by
      rw [signers, List.getElem?_append_left within] at held
      exact List.mem_of_getElem? held
    obtain ⟨filled, verifies⟩ := slot.filled honest (complete other member)
    refine ⟨other, ?_, ?_⟩
    · rw [Nat.zero_add]
      exact getElem?_keys_of_signerKeys held
    · simp [filled, Transaction.message, verifies]
  case held =>
    rw [early, Nat.zero_add]
    exact getElem?_keys_of_signerKeys signer
  case wrong =>
    exact if_pos blank

end Transaction

end SolanaTransactions
