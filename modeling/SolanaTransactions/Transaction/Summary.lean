/-
Module: SolanaTransactions.Transaction.Summary
Purpose: A readable account of what a compiled transaction does.
Main exports: Summary, InstructionSummary, InstructionSummary.dataText, Transaction.summarize
-/
import SolanaTransactions.Message.Accounts
import SolanaTransactions.Text.Base64
import SolanaTransactions.Transaction

namespace SolanaTransactions

/-- An instruction whose program and accounts are named again. -/
structure InstructionSummary where
  program : AccountLabel
  accounts : List ListedAccount
  data : Bytes
deriving DecidableEq, Inhabited, Repr

/-- The data of an instruction as they are shown, in base64. -/
def InstructionSummary.dataText (summary : InstructionSummary) : String :=
  Base64.encode summary.data

/-- What a transaction does, with its accounts named again. -/
structure Summary where
  payer : AccountLabel
  blockhash : Blockhash
  /-- The holders of the required slots, each with its signature once that is there. -/
  signatures : List (AccountLabel × Option Signature)
  instructions : List InstructionSummary
deriving DecidableEq, Inhabited, Repr

/-- The account at a position. -/
def ListedAccount.at (accounts : List ListedAccount) (position : Nat) :
    Except Fault ListedAccount :=
  match accounts[position]? with
  | some account => .ok account
  | none => .error .positionOutOfRange

/-- An instruction with its program and accounts named again. -/
def CompiledInstruction.summarize (accounts : List ListedAccount)
    (instruction : CompiledInstruction) : Except Fault InstructionSummary := do
  let program ← ListedAccount.at accounts instruction.program.toNat
  let used ← instruction.accounts.mapM fun position =>
    ListedAccount.at accounts position.toNat
  return ⟨program.label, used, instruction.data⟩

/-- What a transaction does.  Accounts behind lookups are named when their table is among the given
ones. -/
def Transaction.summarize (transaction : Transaction) (tables : List LookupTable) :
    Except Fault Summary := do
  let message := transaction.message
  let accounts ← message.accounts tables
  let slots := transaction.signatures.take message.requiredSignatures
  let signatures ← (slots.mapIdx fun position signature => (position, signature)).mapM
    fun (position, signature) => do
      let holder ← ListedAccount.at accounts position
      return (holder.label, if signature = Signature.blank then none else some signature)
  let instructions ← message.body.instructions.mapM (·.summarize accounts)
  let payer ← ListedAccount.at accounts 0
  return ⟨payer.label, message.body.blockhash, signatures, instructions⟩

end SolanaTransactions
