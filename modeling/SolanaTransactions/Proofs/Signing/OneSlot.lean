/-
Module: SolanaTransactions.Proofs.Signing.OneSlot
Purpose: What the signature of a keypair does to a transaction, and which keypairs are refused.
Main exports:
  Transaction.SignsAt, Transaction.fill, Transaction.sign_eq_ok_iff, Transaction.exists_signsAt,
  Transaction.SignsAt.first_position, Transaction.sign_eq_error_of_notMem,
  Transaction.toOption_sign_legacy, Transaction.sign_legacy_eq_error
-/
import SolanaTransactions.Transaction

namespace SolanaTransactions.Transaction

/-!
A keypair that signs finds its slot by its key alone and writes what depends on
the message alone.  Neither the slot nor the signature looks at what the slots
hold.
-/

variable {scheme : SignatureScheme} {message : Message} {transaction after : Transaction}
  {keypair first second : Keypair} {key otherKey : Key} {slot other position : Nat}
  {signatures : List Signature} {body : MessageBody}

/-! ### The slot of a key -/

/-- The slot that the keypair of a key fills: the first one of the key, when it is there.  A legacy
transaction has it only when there is a stored key for each of its signers. -/
structure SignsAt (transaction : Transaction) (key : Key) (slot : Nat) : Prop where
  admits : transaction.isVersioned = false →
    transaction.message.requiredSignatures ≤ transaction.message.body.keys.length
  found : transaction.message.signerKeys.idxOf? key = some slot
  within : slot < transaction.signatures.length

/-- A transaction with the signature of a keypair in one of its slots. -/
def fill (scheme : SignatureScheme) (keypair : Keypair) (slot : Nat) (transaction : Transaction) :
    Transaction :=
  transaction.withSignatures
    (transaction.signatures.set slot (scheme.sign keypair.seed transaction.message.toBytes))

/-- A keypair that signs puts its signature into its slot. -/
theorem sign_eq_ok_iff :
    transaction.sign scheme keypair = .ok after ↔ ∃ slot,
      transaction.SignsAt keypair.key slot ∧ after = transaction.fill scheme keypair slot := by
  simp only [sign]
  constructor
  · intro signed
    split at signed
    · contradiction
    · next admits =>
        split at signed
        · contradiction
        · next slot found =>
            split at signed
            · next within =>
                refine ⟨slot, ⟨?_, found, within⟩, (Except.ok.inj signed).symm⟩
                simpa using admits
            · contradiction
  · rintro ⟨slot, signsAt, rfl⟩
    rw [if_neg (by simpa using signsAt.admits), signsAt.found]
    exact if_pos signsAt.within

theorem SignsAt.getElem?_signerKeys (signsAt : transaction.SignsAt key slot) :
    transaction.message.signerKeys[slot]? = some key := by
  obtain ⟨within, holds, _⟩ := List.idxOf?_eq_some_iff.1 signsAt.found
  rw [List.getElem?_eq_getElem within, holds]

/-- The slots of different keys are different. -/
theorem SignsAt.ne (here : transaction.SignsAt key slot)
    (there : transaction.SignsAt otherKey other) (differ : key ≠ otherKey) : slot ≠ other := by
  rintro rfl
  exact differ (Option.some.inj (here.getElem?_signerKeys.symm.trans there.getElem?_signerKeys))

/-- The keypair of a signer has a slot in every versioned transaction with enough of them. -/
theorem exists_signsAt (enough : message.requiredSignatures ≤ signatures.length)
    (member : key ∈ message.signerKeys) :
    ∃ slot, (versioned message signatures).SignsAt key slot := by
  obtain ⟨slot, found⟩ := Option.isSome_iff_exists.1 (List.isSome_idxOf?.2 member)
  obtain ⟨within, _⟩ := List.idxOf?_eq_some_iff.1 found
  have required : slot < message.requiredSignatures :=
    Nat.lt_of_lt_of_le within (List.length_take_le _ _)
  exact ⟨slot, nofun, found, Nat.lt_of_lt_of_le required enough⟩

theorem getElem?_keys_of_signerKeys (signer : message.signerKeys[position]? = some key) :
    message.body.keys[position]? = some key := by
  rw [Message.signerKeys, List.getElem?_take, Option.ite_none_right_eq_some] at signer
  exact signer.2

/-- The slot of a key is the first position at which the message stores it, and the position is that
of a signer. -/
theorem SignsAt.first_position (signsAt : transaction.SignsAt key slot) :
    slot < transaction.message.requiredSignatures ∧
      transaction.message.body.keys[slot]? = some key ∧
      ∀ earlier < slot, transaction.message.body.keys[earlier]? ≠ some key := by
  obtain ⟨within, _, first⟩ := List.idxOf?_eq_some_iff.1 signsAt.found
  have required : slot < transaction.message.requiredSignatures :=
    Nat.lt_of_lt_of_le within (List.length_take_le _ _)
  have stored := getElem?_keys_of_signerKeys signsAt.getElem?_signerKeys
  refine ⟨required, stored, fun earlier before storedEarlier => ?_⟩
  have signer : transaction.message.signerKeys[earlier]? = some key := by
    rw [Message.signerKeys, List.getElem?_take_of_lt (Nat.lt_trans before required)]
    exact storedEarlier
  exact first earlier before (List.getElem?_eq_some_iff.1 signer).2

/-- A versioned transaction refuses the keypair of anybody who is not one of its signers. -/
theorem sign_eq_error_of_notMem (signatures : List Signature)
    (stranger : keypair.key ∉ message.signerKeys) :
    (versioned message signatures).sign scheme keypair = .error (.notASigner keypair.key) := by
  have absent := List.idxOf?_eq_none_iff.2 stranger
  simp only [sign, Transaction.message, isVersioned, absent]
  rfl

/-! ### What a signature leaves as it was -/

theorem signatures_withSignatures (transaction : Transaction) (signatures : List Signature) :
    (transaction.withSignatures signatures).signatures = signatures := by
  cases transaction <;> rfl

@[simp]
theorem message_fill : (transaction.fill scheme keypair slot).message = transaction.message := by
  cases transaction <;> rfl

@[simp]
theorem isVersioned_fill :
    (transaction.fill scheme keypair slot).isVersioned = transaction.isVersioned := by
  cases transaction <;> rfl

@[simp]
theorem signatures_fill :
    (transaction.fill scheme keypair slot).signatures =
      transaction.signatures.set slot (scheme.sign keypair.seed transaction.message.toBytes) :=
  signatures_withSignatures transaction _

/-- A signature moves no slot. -/
theorem signsAt_fill_iff :
    (transaction.fill scheme keypair slot).SignsAt key other ↔ transaction.SignsAt key other := by
  constructor
  · rintro ⟨admits, found, within⟩
    exact ⟨by simpa using admits, by simpa using found, by simpa using within⟩
  · rintro ⟨admits, found, within⟩
    exact ⟨by simpa using admits, by simpa using found, by simpa using within⟩

theorem withSignatures_fill :
    (transaction.fill scheme keypair slot).withSignatures signatures =
      transaction.withSignatures signatures := by
  cases transaction <;> rfl

theorem fill_fill :
    (transaction.fill scheme first slot).fill scheme second other =
      transaction.withSignatures
        ((transaction.signatures.set slot
          (scheme.sign first.seed transaction.message.toBytes)).set other
            (scheme.sign second.seed transaction.message.toBytes)) := by
  rw [fill, withSignatures_fill, signatures_fill, message_fill]

theorem fill_self :
    (transaction.fill scheme keypair slot).fill scheme keypair slot =
      transaction.fill scheme keypair slot := by
  rw [fill_fill, List.set_set]
  rfl

theorem fill_comm (apart : slot ≠ other) :
    (transaction.fill scheme first slot).fill scheme second other =
      (transaction.fill scheme second other).fill scheme first slot := by
  rw [fill_fill, fill_fill, List.set_comm _ _ apart]

/-! ### Legacy transactions -/

/-- With a stored key for each signer, a legacy transaction is signed like a versioned one of the
same message. -/
theorem toOption_sign_legacy (signatures : List Signature) (keypair : Keypair)
    (enough : (Message.legacy body).requiredSignatures ≤ body.keys.length) :
    ((legacy body signatures).sign scheme keypair).toOption.map
        (fun after => (after.message, after.signatures)) =
      ((versioned (.legacy body) signatures).sign scheme keypair).toOption.map
        (fun after => (after.message, after.signatures)) := by
  have admits : ¬body.keys.length < (Message.legacy body).requiredSignatures := Nat.not_lt.2 enough
  simp only [sign, isVersioned, Transaction.message, Transaction.signatures, Message.body, admits]
  cases (Message.legacy body).signerKeys.idxOf? keypair.key with
  | none => rfl
  | some slot =>
      by_cases within : slot < signatures.length
      · simp only [within, if_true]
        rfl
      · simp only [within, if_false]
        rfl

/-- Without one, it refuses everybody. -/
theorem sign_legacy_eq_error (signatures : List Signature) (keypair : Keypair)
    (short : body.keys.length < (Message.legacy body).requiredSignatures) :
    (legacy body signatures).sign scheme keypair = .error (.notALegacySigner keypair.key) := by
  simp only [sign, isVersioned, Transaction.message, Message.body]
  exact if_pos (decide_eq_true short)

end SolanaTransactions.Transaction
