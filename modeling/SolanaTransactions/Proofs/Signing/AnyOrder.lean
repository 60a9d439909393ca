/-
Module: SolanaTransactions.Proofs.Signing.AnyOrder
Purpose: Keypairs may sign one after another in any order, and what they leave is accepted.
Main exports:
  Transaction.sign_sign, Transaction.sign_comm, Transaction.foldlM_sign_perm,
  Transaction.exists_foldlM_sign, Transaction.verify_foldlM_sign_iff, Transaction.sign_commutes
-/
import SolanaTransactions.Proofs.Signing.Completeness
import SolanaTransactions.Proofs.Signing.OneSlot
import SolanaTransactions.Proofs.Signing.Refilling

namespace SolanaTransactions.Transaction

/-!
Different keys have different slots, and what is written into a slot does not
depend on the others; so signatures of different keypairs commute, and a second
signature of the same keypair changes nothing.  The order of many keypairs is a
matter of exchanging neighbours.
-/

variable {scheme : SignatureScheme} {message : Message} {transaction after filled : Transaction}
  {first second : Keypair} {keypairs order : List Keypair}

/-! ### Two signatures -/

/-- Signing twice is signing once. -/
theorem sign_sign (scheme : SignatureScheme) (keypair : Keypair) (transaction : Transaction) :
    (transaction.sign scheme keypair >>= fun once => once.sign scheme keypair) =
      transaction.sign scheme keypair := by
  cases signed : transaction.sign scheme keypair with
  | error fault => rfl
  | ok once =>
      obtain ⟨slot, signsAt, rfl⟩ := sign_eq_ok_iff.1 signed
      exact sign_eq_ok_iff.2 ⟨slot, signsAt_fill_iff.2 signsAt, fill_self.symm⟩

/-- Two keypairs sign one after the other when each has its slot. -/
theorem sign_sign_eq_ok_iff :
    (transaction.sign scheme first >>= fun once => once.sign scheme second) = .ok after ↔
      ∃ slot other, transaction.SignsAt first.key slot ∧ transaction.SignsAt second.key other ∧
        after = (transaction.fill scheme first slot).fill scheme second other := by
  rw [bind_eq_ok_iff]
  constructor
  · rintro ⟨once, signed, twice⟩
    obtain ⟨slot, here, rfl⟩ := sign_eq_ok_iff.1 signed
    obtain ⟨other, there, rfl⟩ := sign_eq_ok_iff.1 twice
    exact ⟨slot, other, here, signsAt_fill_iff.1 there, rfl⟩
  · rintro ⟨slot, other, here, there, rfl⟩
    exact ⟨_, sign_eq_ok_iff.2 ⟨slot, here, rfl⟩,
      sign_eq_ok_iff.2 ⟨other, signsAt_fill_iff.2 there, rfl⟩⟩

/-- Keypairs of different keys may sign in either order. -/
theorem sign_comm (differ : first.key ≠ second.key) :
    (transaction.sign scheme first >>= fun once => once.sign scheme second) = .ok after ↔
      (transaction.sign scheme second >>= fun once => once.sign scheme first) = .ok after := by
  rw [sign_sign_eq_ok_iff, sign_sign_eq_ok_iff]
  constructor
  · rintro ⟨slot, other, here, there, rfl⟩
    exact ⟨other, slot, there, here, fill_comm (here.ne there differ)⟩
  · rintro ⟨slot, other, here, there, rfl⟩
    exact ⟨other, slot, there, here, fill_comm (here.ne there differ.symm)⟩

/-! ### Many signatures -/

/-- Keypairs of different keys may sign in any order. -/
theorem foldlM_sign_perm (perm : order.Perm keypairs) (distinct : (order.map (·.key)).Nodup) :
    order.foldlM (fun current => current.sign scheme) transaction = .ok filled ↔
      keypairs.foldlM (fun current => current.sign scheme) transaction = .ok filled := by
  induction perm generalizing transaction with
  | nil => exact Iff.rfl
  | cons keypair _ ih =>
      rw [List.foldlM_cons, List.foldlM_cons, bind_eq_ok_iff, bind_eq_ok_iff]
      exact exists_congr fun once => and_congr_right fun _ => ih (List.nodup_cons.1 distinct).2
  | swap first second rest =>
      rw [List.map_cons, List.map_cons, List.nodup_cons, List.mem_cons, not_or] at distinct
      have differ : second.key ≠ first.key := distinct.1.1
      simp only [List.foldlM_cons, ← bind_assoc]
      rw [bind_eq_ok_iff, bind_eq_ok_iff]
      exact exists_congr fun twice => and_congr_left fun _ => sign_comm differ
  | trans perm _ ihFirst ihSecond =>
      exact (ihFirst distinct).trans (ihSecond ((perm.map _).nodup_iff.1 distinct))

/-- Keypairs that all have their slots sign one after another. -/
theorem exists_foldlM_sign (scheme : SignatureScheme)
    (slots : ∀ keypair ∈ keypairs, ∃ slot, transaction.SignsAt keypair.key slot) :
    ∃ filled, keypairs.foldlM (fun current => current.sign scheme) transaction = .ok filled ∧
      transaction.Refills filled := by
  induction keypairs generalizing transaction with
  | nil => exact ⟨transaction, rfl, .refl transaction⟩
  | cons keypair rest ih =>
      obtain ⟨⟨slot, here⟩, later⟩ := List.forall_mem_cons.1 slots
      have signed : transaction.sign scheme keypair = .ok (transaction.fill scheme keypair slot) :=
        sign_eq_ok_iff.2 ⟨slot, here, rfl⟩
      obtain ⟨filled, folded, refills⟩ :=
        @ih (transaction.fill scheme keypair slot) fun other member =>
          (later other member).imp fun _ => signsAt_fill_iff.2
      refine ⟨filled, ?_, (Refills.of_sign signed).trans refills⟩
      rw [List.foldlM_cons, signed]
      exact folded

/-- Genuine keypairs of signers add their keys to those that have signed. -/
theorem SignedBy.exists_foldlM_sign {signed : Key → Bool} (nodup : message.signerKeys.Nodup)
    (genuine : ∀ keypair ∈ keypairs, keypair.key = scheme.publicKey keypair.seed)
    (signers : ∀ keypair ∈ keypairs, keypair.key ∈ message.signerKeys)
    (signedBy : transaction.SignedBy scheme message signed) :
    ∃ filled, keypairs.foldlM (fun current => current.sign scheme) transaction = .ok filled ∧
      filled.SignedBy scheme message fun key =>
        signed key || (keypairs.map (·.key)).contains key := by
  induction keypairs generalizing transaction signed with
  | nil => exact ⟨transaction, rfl, signedBy.congr (by simp)⟩
  | cons keypair rest ih =>
      obtain ⟨here, genuineRest⟩ := List.forall_mem_cons.1 genuine
      obtain ⟨signer, signersRest⟩ := List.forall_mem_cons.1 signers
      obtain ⟨once, signedOnce, onceBy⟩ := signedBy.exists_sign nodup (here ▸ signer)
      obtain ⟨filled, folded, filledBy⟩ := ih genuineRest signersRest onceBy
      refine ⟨filled, ?_, filledBy.congr fun key _ => ?_⟩
      · have own : keypair = Keypair.ofSeed scheme keypair.seed := by
          cases keypair
          exact congrArg _ here
        rw [List.foldlM_cons, own, signedOnce]
        exact folded
      · rw [List.map_cons, List.contains_cons, ← here, Bool.or_assoc]

/-- When everybody who has to sign has signed, the transaction is accepted, as long as there is a
key for each slot. -/
theorem verify_foldlM_sign_iff (honest : scheme.Honest) (nodup : message.signerKeys.Nodup)
    (signers : (keypairs.map (·.key)).Perm message.signerKeys)
    (genuine : ∀ keypair ∈ keypairs, keypair.key = scheme.publicKey keypair.seed)
    (folded : keypairs.foldlM (fun current => current.sign scheme) (unsigned message) = .ok filled)
    (refills : (unsigned message).Refills filled) :
    filled.verify scheme = .ok () ↔ message.requiredSignatures ≤ message.body.keys.length := by
  obtain ⟨signatures, slots, rfl⟩ := refills
  have versioned : ((unsigned message).withSignatures signatures).isVersioned = true := rfl
  have slots : signatures.length = message.requiredSignatures := slots.trans List.length_replicate
  rw [verify_eq_ok_iff versioned]
  constructor
  · intro signed
    by_contra short
    -- The first slot without a key is there.
    have present : message.body.keys.length < signatures.length := slots ▸ Nat.lt_of_not_le short
    obtain ⟨key, stored, _⟩ := signed _ _ (List.getElem?_eq_getElem present)
    have beyond : message.body.keys[message.body.keys.length]? = some key := stored
    rw [List.getElem?_eq_none (Nat.le_refl _)] at beyond
    contradiction
  · intro enough
    have length : message.signerKeys.length = message.requiredSignatures :=
      List.length_take_of_le enough
    obtain ⟨other, otherFolded, otherBy⟩ :=
      (signedBy_unsigned scheme length).exists_foldlM_sign nodup genuine fun keypair member =>
        signers.subset (List.mem_map_of_mem member)
    obtain rfl := Except.ok.inj (otherFolded.symm.trans folded)
    refine otherBy.slotsSigned honest fun key signer => ?_
    simpa using signers.symm.subset signer

/-- A keypair fills the first slot of its key and nothing else, and whoever has no slot is refused;
signing twice is signing once, and different keypairs sign in any order.  All signers together
give one transaction, which is accepted when there is a stored key for each slot; a legacy
transaction is then signed in the same way, and otherwise not at all. -/
theorem sign_commutes (scheme : SignatureScheme) (message : Message) (signatures : List Signature)
    (enough : signatures.length = message.requiredSignatures) :
    let transaction := versioned message signatures
    (∀ keypair : Keypair, keypair.key ∈ message.signerKeys → ∃ slot,
      slot < message.requiredSignatures ∧ message.body.keys[slot]? = some keypair.key ∧
      (∀ earlier < slot, message.body.keys[earlier]? ≠ some keypair.key) ∧
      transaction.sign scheme keypair = .ok
        (versioned message (signatures.set slot (scheme.sign keypair.seed message.toBytes)))) ∧
    (∀ keypair : Keypair, keypair.key ∉ message.signerKeys →
      transaction.sign scheme keypair = .error (.notASigner keypair.key)) ∧
    (∀ keypair, (transaction.sign scheme keypair >>= fun once => once.sign scheme keypair) =
      transaction.sign scheme keypair) ∧
    (∀ first second : Keypair, first.key ≠ second.key → ∀ both,
      (transaction.sign scheme first >>= fun once => once.sign scheme second) = .ok both ↔
        (transaction.sign scheme second >>= fun once => once.sign scheme first) = .ok both) ∧
    (scheme.Honest → message.signerKeys.Nodup → ∀ keypairs : List Keypair,
      (∀ keypair ∈ keypairs, keypair.key = scheme.publicKey keypair.seed) →
      (keypairs.map (·.key)).Perm message.signerKeys → ∃ filled,
        (∀ order : List Keypair, order.Perm keypairs →
          order.foldlM (fun current => current.sign scheme) (unsigned message) = .ok filled) ∧
        (filled.verify scheme = .ok () ↔
          message.requiredSignatures ≤ message.body.keys.length)) ∧
    ∀ body, message = .legacy body → ∀ keypair : Keypair,
      (message.requiredSignatures ≤ body.keys.length →
        ((legacy body signatures).sign scheme keypair).toOption.map
            (fun after => (after.message, after.signatures)) =
          (transaction.sign scheme keypair).toOption.map
            (fun after => (after.message, after.signatures))) ∧
      (body.keys.length < message.requiredSignatures →
        (legacy body signatures).sign scheme keypair =
          .error (.notALegacySigner keypair.key)) := by
  intro transaction
  refine ⟨fun keypair signer => ?fills, fun keypair => sign_eq_error_of_notMem signatures,
    fun keypair => sign_sign scheme keypair transaction, fun first second differ both =>
    sign_comm differ, fun honest nodup keypairs genuine signers => ?together, ?legacy⟩
  case fills =>
    obtain ⟨slot, signsAt⟩ := exists_signsAt (Nat.le_of_eq enough.symm) signer
    obtain ⟨required, stored, first⟩ := signsAt.first_position
    exact ⟨slot, required, stored, first, sign_eq_ok_iff.2 ⟨slot, signsAt, rfl⟩⟩
  case together =>
    have distinct : (keypairs.map (·.key)).Nodup := signers.nodup_iff.2 nodup
    have blanks : message.requiredSignatures ≤
        (List.replicate message.requiredSignatures Signature.blank).length :=
      Nat.le_of_eq List.length_replicate.symm
    obtain ⟨filled, folded, refills⟩ := exists_foldlM_sign scheme fun keypair member =>
      exists_signsAt blanks (signers.subset (List.mem_map_of_mem member))
    refine ⟨filled, fun order perm => ?_,
      verify_foldlM_sign_iff honest nodup signers genuine folded refills⟩
    exact (foldlM_sign_perm perm.symm distinct).1 folded
  case legacy =>
    rintro body rfl keypair
    exact ⟨toOption_sign_legacy signatures keypair, sign_legacy_eq_error signatures keypair⟩

/-- The keypair of a numbered seed, in the scheme of marks. -/
def markingKeypair (number : Nat) : Keypair := .ofSeed .marking (Seed.ofNat number)

/-- A legacy message that asks for two signatures and stores some keys. -/
def askingForTwo (keys : List Key) : MessageBody := ⟨⟨2, 0, 0⟩, keys, ⟨0⟩, []⟩

/-- Two blank slots. -/
def twoBlanks : List Signature := [Signature.blank, Signature.blank]

theorem sign_commutes_pair :
    let one := markingKeypair 1
    let two := markingKeypair 2
    let body := askingForTwo [one.key, two.key]
    let transaction := versioned (.legacy body) twoBlanks
    twoBlanks.length = (Message.legacy body).requiredSignatures ∧
      SignatureScheme.marking.Honest ∧ (Message.legacy body).signerKeys = [one.key, two.key] ∧
      one.key ≠ two.key ∧
      (∃ slot, transaction.sign .marking one = .ok (versioned (.legacy body)
        (twoBlanks.set slot (SignatureScheme.marking.sign one.seed
          (Message.legacy body).toBytes)))) ∧
      (∀ both, (transaction.sign .marking one >>= fun once => once.sign .marking two) = .ok both ↔
        (transaction.sign .marking two >>= fun once => once.sign .marking one) = .ok both) ∧
      (∃ filled,
        [two, one].foldlM (fun current => current.sign .marking) (unsigned (.legacy body)) =
          .ok filled ∧
        filled.verify .marking = .ok ()) ∧
      ((legacy body twoBlanks).sign .marking one).toOption.map
          (fun after => (after.message, after.signatures)) =
        (transaction.sign .marking one).toOption.map
          (fun after => (after.message, after.signatures)) := by
  intro one two body transaction
  have differ : one.key ≠ two.key := by decide +revert
  have nodup : (Message.legacy body).signerKeys.Nodup :=
    List.nodup_cons.2 ⟨mt List.mem_singleton.1 differ, List.nodup_singleton _⟩
  have genuine : ∀ keypair ∈ [one, two],
      keypair.key = SignatureScheme.marking.publicKey keypair.seed :=
    List.forall_mem_cons.2 ⟨rfl, List.forall_mem_singleton.2 rfl⟩
  obtain ⟨fills, _, _, commutes, together, likewise⟩ :=
    sign_commutes .marking (.legacy body) twoBlanks rfl
  obtain ⟨slot, _, _, _, signed⟩ := fills one List.mem_cons_self
  obtain ⟨filled, anyOrder, accepted⟩ :=
    together SignatureScheme.honest_marking nodup [one, two] genuine (List.Perm.refl _)
  exact ⟨rfl, SignatureScheme.honest_marking, rfl, differ, ⟨slot, signed⟩, commutes one two differ,
    ⟨filled, anyOrder [two, one] (List.Perm.swap one two []), accepted.2 (Nat.le_refl 2)⟩,
    (likewise body rfl one).1 (Nat.le_refl 2)⟩

/-- Without a stored key for each signature that a message asks for, the only signer signs a
versioned transaction but no legacy one, and what it signs is not accepted. -/
theorem sign_without_key :
    let one := markingKeypair 1
    let body := askingForTwo [one.key]
    let transaction := versioned (.legacy body) twoBlanks
    twoBlanks.length = (Message.legacy body).requiredSignatures ∧
      SignatureScheme.marking.Honest ∧ one.key = SignatureScheme.marking.publicKey one.seed ∧
      (Message.legacy body).signerKeys.Nodup ∧
      [one.key] = (Message.legacy body).signerKeys ∧
      transaction.sign .marking one = .ok (versioned (.legacy body)
        [SignatureScheme.marking.sign one.seed (Message.legacy body).toBytes, Signature.blank]) ∧
      (legacy body twoBlanks).sign .marking one = .error (.notALegacySigner one.key) ∧
      ([one].foldlM (fun current => current.sign .marking) (unsigned (.legacy body)) >>=
        fun filled => filled.verify .marking) = .error .positionOutOfRange := by
  intro one body transaction
  have signed : transaction.sign .marking one = .ok (versioned (.legacy body)
      [SignatureScheme.marking.sign one.seed (Message.legacy body).toBytes, Signature.blank]) :=
    sign_eq_ok_iff.2 ⟨0, ⟨nofun, rfl, Nat.zero_lt_two⟩, rfl⟩
  refine ⟨rfl, SignatureScheme.honest_marking, rfl, List.nodup_singleton _, rfl, signed,
    sign_legacy_eq_error twoBlanks one (Nat.lt_succ_self 1), ?_⟩
  decide +kernel +revert

end SolanaTransactions.Transaction
