/-
Module: SolanaTransactions.Sizing.Estimate
Purpose: The serialized size of a transaction, found without building it.
Main exports: signerKeys, programKeys, loadableKeys, fixedPart, estimateSize
-/
import SolanaTransactions.Instruction
import SolanaTransactions.Sizing.TableSearch

namespace SolanaTransactions

/-!
The payer, the signers and the programs have to be stored in full; every other
account may be loaded through a lookup table.  Tables are searched only when the
plain transaction is too large and its distinct accounts are within their limit.
-/

/-- The accounts that have to sign. -/
def signerKeys (instructions : List Instruction) (payer : Key) : KeySet :=
  KeySet.ofList (payer :: instructions.flatMap fun instruction =>
    (instruction.accounts.filter (·.signer)).map (·.key))

/-- The programs that are called. -/
def programKeys (instructions : List Instruction) : KeySet :=
  KeySet.ofList (instructions.map (·.program))

/-- The accounts that have to be stored in full. -/
def storedKeys (instructions : List Instruction) (payer : Key) : KeySet :=
  (signerKeys instructions payer).union (programKeys instructions)

/-- The accounts that a lookup table may load. -/
def loadableKeys (instructions : List Instruction) (payer : Key) : KeySet :=
  (KeySet.ofList (instructions.flatMap fun instruction =>
    instruction.accounts.map (·.key))).difference (storedKeys instructions payer)

/-- The serialized size of one instruction: two counted lists behind the index of the program. -/
def instructionSize (instruction : Instruction) : Int :=
  let accounts : Int := instruction.accounts.length
  let bytes : Int := instruction.data.length
  1 + compactLength accounts + accounts + compactLength bytes + bytes

/-- The size of instructions inside a message, one after the other. -/
def bodySize : List Instruction → Int
  | [] => 0
  | instruction :: rest => instructionSize instruction + bodySize rest

/-- The part of a transaction that no lookup table changes. -/
def fixedPart (instructions : List Instruction) (payer : Key) : FixedPart :=
  let signatures : Int := (signerKeys instructions payer).size
  { bytes := compactLength signatures + signatures * signatureLength + headerLength +
      blockhashLength + versionLength + compactLength instructions.length +
      bodySize instructions + 1
    keys := (storedKeys instructions payer).size }

/-- The size that a list of instructions compiles to, with tables chosen from a pool when the plain
transaction is too large. -/
def estimateSize (instructions : List Instruction) (payer : Key) (pool : List Candidate) :
    Estimate :=
  let fixed := fixedPart instructions payer
  let loadable := loadableKeys instructions payer
  let plain := totalSize fixed 0 0 loadable.size
  let uniqueKeys := fixed.keys + loadable.size
  if plain ≤ maxTransactionSize ∨ pool.isEmpty ∨ uniqueKeys > maxUniqueKeys then
    ⟨plain, [], uniqueKeys⟩
  else
    chooseTables fixed plain loadable pool

end SolanaTransactions
