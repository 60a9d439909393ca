/-
Module: SolanaTransactions.Proofs.Message.WireLength
Purpose: The length of serialized transactions, part by part.
Main exports:
  Message.loadedCount, Message.accountCount, TableLookup.length_flatMap_toBytes,
  Transaction.length_toBytes_v0, Transaction.length_toBytes_withSignatures
-/
import Mathlib.Algebra.GroupWithZero.Nat
import Mathlib.Data.List.Basic
import SolanaTransactions.Transaction

namespace SolanaTransactions

@[simp] theorem Bytes.length_counted (bytes : Bytes) :
    (Bytes.counted bytes).length = (CompactCount.encode bytes.length).length + bytes.length := by
  simp [Bytes.counted]

@[simp] theorem Bytes.length_countedList {α : Type} (toBytes : α → Bytes) (elements : List α) :
    (Bytes.countedList toBytes elements).length =
      (CompactCount.encode elements.length).length + (elements.flatMap toBytes).length := by
  simp [Bytes.countedList]

/-- Elements of one width take that many bytes each. -/
theorem Bytes.length_flatMap_of_width {α : Type} {toBytes : α → Bytes} {width : Nat}
    (each : ∀ element, (toBytes element).length = width) (elements : List α) :
    (elements.flatMap toBytes).length = width * elements.length := by
  induction elements with
  | nil => simp
  | cons head rest ih =>
      rw [List.flatMap_cons, List.length_append, each, ih, List.length_cons, Nat.mul_succ]
      exact Nat.add_comm _ _

@[simp] theorem CompiledInstruction.length_toBytes (instruction : CompiledInstruction) :
    instruction.toBytes.length =
      1 + (CompactCount.encode instruction.accounts.length).length + instruction.accounts.length +
        (CompactCount.encode instruction.data.length).length + instruction.data.length := by
  simp only [CompiledInstruction.toBytes, List.cons_append, List.length_cons, List.length_append,
    Bytes.length_counted]
  omega

/-- How many accounts a message loads through lookup tables. -/
def Message.loadedCount (message : Message) : Nat :=
  (message.lookups.map fun lookup => lookup.writable.length + lookup.readonly.length).sum

/-- How many accounts a message refers to, stored or loaded. -/
def Message.accountCount (message : Message) : Nat :=
  message.body.keys.length + message.loadedCount

/-- A lookup with short index lists takes 34 bytes and one for each index. -/
theorem TableLookup.length_flatMap_toBytes {lookups : List TableLookup}
    (short : ∀ lookup ∈ lookups, lookup.writable.length < 128 ∧ lookup.readonly.length < 128) :
    (lookups.flatMap TableLookup.toBytes).length = 34 * lookups.length +
      (lookups.map fun lookup => lookup.writable.length + lookup.readonly.length).sum := by
  induction lookups with
  | nil => rfl
  | cons head rest ih =>
      have later := ih fun lookup member => short lookup (List.mem_cons_of_mem head member)
      obtain ⟨writable, readonly⟩ := short head List.mem_cons_self
      simp only [List.flatMap_cons, List.length_append, later, TableLookup.toBytes,
        Key.length_toBytes, Bytes.length_counted, CompactCount.length_encode_small writable,
        CompactCount.length_encode_small readonly, List.length_cons, List.map_cons, List.sum_cons]
      omega

namespace Transaction

/-- The length of a transaction around a message of version 0, as a sum over its parts. -/
theorem length_toBytes_v0 (body : MessageBody) (lookups : List TableLookup)
    (signatures : List Signature) :
    (versioned (.v0 body lookups) signatures).toBytes.length =
      (CompactCount.encode signatures.length).length + 64 * signatures.length + 36 +
        (CompactCount.encode body.keys.length).length + 32 * body.keys.length +
        (CompactCount.encode body.instructions.length).length +
        (body.instructions.flatMap CompiledInstruction.toBytes).length +
        (CompactCount.encode lookups.length).length +
        (lookups.flatMap TableLookup.toBytes).length := by
  have signatureBytes := Bytes.length_flatMap_of_width Signature.length_toBytes signatures
  have keyBytes := Bytes.length_flatMap_of_width Key.length_toBytes body.keys
  simp only [toBytes, Transaction.signatures, Transaction.message, Message.toBytes,
    MessageBody.toBytes, Header.toBytes, List.length_append, List.length_cons, List.length_nil,
    List.cons_append, Bytes.length_countedList, Blockhash.length_toBytes, signatureBytes, keyBytes]
  omega

/-- Signatures that take the places of others do not change the length. -/
theorem length_toBytes_withSignatures {transaction : Transaction} {signatures : List Signature}
    (slots : signatures.length = transaction.signatures.length) :
    (transaction.withSignatures signatures).toBytes.length = transaction.toBytes.length := by
  have signatureBytes := Bytes.length_flatMap_of_width Signature.length_toBytes
  cases transaction with
  | versioned message present =>
      simp only [Transaction.signatures] at slots
      simp [toBytes, withSignatures, Transaction.signatures, Transaction.message, signatureBytes,
        slots]
  | legacy body present =>
      simp only [Transaction.signatures] at slots
      simp [toBytes, withSignatures, Transaction.signatures, Transaction.message, signatureBytes,
        slots]

end Transaction

end SolanaTransactions
