/-
Module: SolanaTransactions.Fault
Purpose: The causes for which an operation stops.
Main exports: SigningGap, Fault, Fault.message?, Signature.read
-/
import SolanaTransactions.Message.Compile

namespace SolanaTransactions

/-- What is missing once every signer has been asked. -/
inductive SigningGap where
  /-- The signer of a key gave back another number of transactions than it was handed. -/
  | wrongCount (signer : Key) (returned expected : Nat)
  /-- A slot of a transaction is blank. -/
  | missing (transaction : Nat) (key : Key)
  /-- The signature in a slot of a transaction does not verify. -/
  | invalid (transaction : Nat) (key : Key)
deriving DecidableEq, Inhabited, Repr

/-- Why an operation stops without a result. -/
inductive Fault where
  /-- Signing has left a gap. -/
  | signingIncomplete (gap : SigningGap)
  /-- The signer of a key cannot sign plain messages. -/
  | messageSigningUnsupported (signer : Key)
  /-- A signature slot is blank when the transaction is checked. -/
  | signatureMissing (key : Key) (position : Nat)
  /-- A signature does not verify when the transaction is checked. -/
  | signatureInvalid (key : Key) (position : Nat)
  /-- A key does not sign the versioned transaction that it was asked to sign. -/
  | notASigner (key : Key)
  /-- A key does not sign the legacy transaction that it was asked to sign. -/
  | notALegacySigner (key : Key)
  /-- A list is shorter than a position in it. -/
  | positionOutOfRange
  /-- Instructions have no message. -/
  | compile (cause : CompileError)
  /-- An amount to transfer is negative or does not fit in 64 bits. -/
  | lamportsOutOfRange (lamports : Int)
  /-- A compute unit limit does not fit in 32 bits or a price does not fit in 64. -/
  | budgetOutOfRange (amount : Int)
  /-- A slot is negative or does not fit in 64 bits. -/
  | slotOutOfRange (slot : Int)
  /-- A block height is negative or does not fit in 64 bits. -/
  | heightOutOfRange (height : Int)
  /-- Bytes are too few or too many for a signature. -/
  | signatureLength (length : Nat)
  /-- No byte completes the seeds to the address of a program account. -/
  | noProgramAddress
  /-- The connection to a node or to a signer failed. -/
  | connection
  /-- An answer did not come in time. -/
  | timeout
deriving DecidableEq, Inhabited, Repr

/-- The text of a signing gap. -/
def SigningGap.message : SigningGap → String
  | wrongCount signer returned expected =>
      "Signer " ++ signer.text ++ " returned " ++ toString returned ++ " transactions, expected " ++
        toString expected
  | missing transaction key =>
      "Transaction " ++ toString transaction ++ " is missing a signature for " ++ key.text
  | invalid transaction key =>
      "Transaction " ++ toString transaction ++ " has an invalid signature for " ++ key.text

/-- The text of a fault, for the faults that this library words itself. -/
def Fault.message? : Fault → Option String
  | signingIncomplete gap => some gap.message
  | messageSigningUnsupported signer =>
      some ("Signer " ++ signer.text ++ " cannot sign messages")
  | signatureMissing key position =>
      some ("Missing required signature for key " ++ key.text ++ " at index " ++ toString position)
  | signatureInvalid key position =>
      some ("Signature at index " ++ toString position ++ " does not verify for key " ++ key.text)
  | notASigner key => some ("Cannot sign with non signer key " ++ key.text)
  | _ => none

/-- The signature that bytes form, which have to be 64. -/
def Signature.read (bytes : Bytes) : Except Fault Signature :=
  match Signature.ofBytes? bytes with
  | some signature => .ok signature
  | none => .error (.signatureLength bytes.length)

end SolanaTransactions
