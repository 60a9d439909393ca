/-
Module: SolanaTransactions.Rpc.Results
Purpose: The results that a node answers with, read from JSON.
Main exports:
  SignatureStatus, readContext?, readBlockhash?, readSignature?, readStatuses?
-/
import SolanaTransactions.Network
import SolanaTransactions.Rpc.TransactionError

namespace SolanaTransactions

/-- How deeply the block of a transaction is buried, in ascending order. -/
inductive Depth where
  | processed
  | confirmed
  | finalized
deriving DecidableEq, Inhabited, Repr

namespace Depth

/-- All depths, in ascending order. -/
def all : List Depth := [processed, confirmed, finalized]

/-- The word for a depth. -/
def word : Depth → Commitment
  | processed => "processed"
  | confirmed => "confirmed"
  | finalized => "finalized"

/-- The rank of a depth. -/
def rank : Depth → Nat
  | processed => 0
  | confirmed => 1
  | finalized => 2

/-- The depth of a word; case counts. -/
def ofWord? (text : String) : Option Depth := all.find? fun depth => depth.word == text

/-- The depth that a value of a reply stands for. -/
def ofJson? (value : JsonValue) : Option Depth := value.plainAlternative?.bind ofWord?

end Depth

/-- What a node knows of a signature. -/
structure SignatureStatus where
  slot : Nat
  /-- How many blocks were voted for since; nothing when that no longer counts. -/
  confirmations : Option Nat
  error : Option TransactionError
  depth : Option Depth
deriving DecidableEq, Inhabited, Repr

open JsonValue

/-- The slot of a context, which may name the version of the node. -/
def readSlot? (value : JsonValue) : Option Nat := do
  let parts ← value.record? ["slot", "apiVersion"] 1
  let _ ← parts.optional? string? "apiVersion"
  parts.required? nat64? "slot"

/-- A result together with the slot at which it was found. -/
def readContext? {α : Type} (read? : JsonValue → Option α) (value : JsonValue) :
    Option (Nat × α) := do
  let parts ← value.record? ["context", "value"] 2
  let slot ← parts.required? readSlot? "context"
  let content ← parts.required? read? "value"
  some (slot, content)

/-- The bytes of some number that a base58 text stands for. -/
def readBase58? (length : Nat) (value : JsonValue) : Option Bytes := do
  let bytes ← Base58.decode? (← value.string?)
  if bytes.length = length then some bytes else none

/-- A blockhash and the last height at which it is valid. -/
def readBlockhash? (value : JsonValue) : Option RecentBlockhash := do
  let parts ← value.record? ["blockhash", "lastValidBlockHeight"] 2
  let bytes ← parts.required? (readBase58? 32) "blockhash"
  let height ← parts.required? nat64? "lastValidBlockHeight"
  some ⟨Blockhash.ofBytes bytes, height⟩

/-- A signature. -/
def readSignature? (value : JsonValue) : Option Signature :=
  (readBase58? 64 value).map Signature.ofBytes

/-- Whether a value states an outcome: no error or some error. -/
def readOutcome? (value : JsonValue) : Option Unit :=
  match value.alternative? with
  | some ("Ok", some content) => content.null?
  | some ("Err", some error) => (TransactionError.ofJson? error).map fun _ => ()
  | _ => none

/-- What a node knows of a signature. -/
def readStatus? (value : JsonValue) : Option SignatureStatus := do
  let names := ["slot", "confirmations", "status", "err", "confirmationStatus"]
  let parts ← value.record? names names.length
  let slot ← parts.required? nat64? "slot"
  let confirmations ← parts.optional? nat64? "confirmations"
  let _ ← parts.required? readOutcome? "status"
  let error ← parts.optional? TransactionError.ofJson? "err"
  let depth ← parts.optional? Depth.ofJson? "confirmationStatus"
  some ⟨slot, confirmations, error, depth⟩

/-- What a node knows of several signatures; it may know nothing of some. -/
def readStatuses? : JsonValue → Option (List (Option SignatureStatus)) :=
  list? (orNull? readStatus?)

end SolanaTransactions
