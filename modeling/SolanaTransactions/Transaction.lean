/-
Module: SolanaTransactions.Transaction
Purpose: Transactions, their serialized form and their signature slots.
Main exports:
  Transaction, Transaction.toBytes, Transaction.unsigned, Transaction.checkSlots,
  Transaction.verify, Transaction.identifier?
-/
import SolanaTransactions.Fault
import SolanaTransactions.Message.Wire
import SolanaTransactions.SignatureScheme

namespace SolanaTransactions

/-!
A transaction is a message with a list of signature slots.  Slot `i` belongs to
the stored key at position `i`.  The list is whatever a signer hands back: it
may be shorter or longer than the header asks for, and a slot may be blank.  A
versioned transaction may carry a message of either version; a legacy
transaction carries a legacy message and is not checked before it is sent.
-/

/-- A message and its signature slots. -/
inductive Transaction where
  | versioned (message : Message) (signatures : List Signature)
  | legacy (body : MessageBody) (signatures : List Signature)
deriving DecidableEq, Inhabited, Repr

namespace Transaction

/-- The message of a transaction. -/
def message : Transaction → Message
  | versioned message _ => message
  | legacy body _ => .legacy body

/-- The signature slots of a transaction. -/
def signatures : Transaction → List Signature
  | versioned _ signatures => signatures
  | legacy _ signatures => signatures

/-- Whether a transaction is of the versioned form. -/
def isVersioned : Transaction → Bool
  | versioned _ _ => true
  | legacy _ _ => false

/-- The stored keys of the message. -/
def keys (transaction : Transaction) : List Key := transaction.message.body.keys

/-- A transaction with other signature slots. -/
def withSignatures (transaction : Transaction) (signatures : List Signature) : Transaction :=
  match transaction with
  | versioned message _ => versioned message signatures
  | legacy body _ => legacy body signatures

/-- The versioned transaction around a message in which every required slot is blank. -/
def unsigned (message : Message) : Transaction :=
  versioned message (List.replicate message.requiredSignatures Signature.blank)

/-- The serialized form of a transaction: its counted signatures and its message. -/
def toBytes (transaction : Transaction) : Bytes :=
  Bytes.countedList Signature.toBytes transaction.signatures ++ transaction.message.toBytes

/-- Check signatures from a position on against a list of keys, in order and up to the first fault.
A slot that has no key is a fault. -/
def checkFrom (keys : List Key) (judge : Nat → Key → Signature → Option Fault) :
    Nat → List Signature → Except Fault Unit
  | _, [] => .ok ()
  | position, signature :: rest =>
      match keys[position]? with
      | none => .error .positionOutOfRange
      | some key =>
          match judge position key signature with
          | some fault => .error fault
          | none => checkFrom keys judge (position + 1) rest

/-- Check the slots of a transaction in order, up to the first fault. -/
def checkSlots (transaction : Transaction) (judge : Nat → Key → Signature → Option Fault) :
    Except Fault Unit :=
  checkFrom transaction.keys judge 0 transaction.signatures

/-- Refuse a versioned transaction in which some slot is blank or does not verify.  A legacy
transaction passes. -/
def verify (scheme : SignatureScheme) (transaction : Transaction) : Except Fault Unit :=
  if transaction.isVersioned then
    let signed := transaction.message.toBytes
    transaction.checkSlots fun position key signature =>
      if signature = Signature.blank then some (.signatureMissing key position)
      else if scheme.verifies key signed signature then none
      else some (.signatureInvalid key position)
  else .ok ()

/-- The signature of the payer, by which a transaction is known once it is there. -/
def identifier? (transaction : Transaction) : Option Signature :=
  match transaction.signatures with
  | [] => none
  | first :: _ => if first = Signature.blank then none else some first

/-- Put the signature of a keypair into the first slot of its key. -/
def sign (scheme : SignatureScheme) (keypair : Keypair) (transaction : Transaction) :
    Except Fault Transaction :=
  let body := transaction.message.body
  let required := transaction.message.requiredSignatures
  let stranger : Fault :=
    if transaction.isVersioned then .notASigner keypair.key else .notALegacySigner keypair.key
  if !transaction.isVersioned && body.keys.length < required then .error stranger
  else
    match transaction.message.signerKeys.idxOf? keypair.key with
    | none => .error stranger
    | some slot =>
        if slot < transaction.signatures.length then
          .ok (transaction.withSignatures (transaction.signatures.set slot
            (scheme.sign keypair.seed transaction.message.toBytes)))
        else .error .positionOutOfRange

end Transaction

end SolanaTransactions
