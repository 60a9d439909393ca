/-
Module: SolanaTransactions.SystemProgram.Transfer
Purpose: The producer of transfers, which knows who signs for them.
Main exports: Producer.transfer
-/
import SolanaTransactions.Signing.Signer
import SolanaTransactions.SystemProgram

namespace SolanaTransactions

/-- The producer of a transfer.  The funder pays unless another source is given; whoever pays
signs. -/
def Producer.transfer {ε : Type} (source : Option (Signer ε)) (target : Key) (lamports : Int) :
    Producer ε := fun funder => do
  let signer := source.getD funder
  let instruction ← Client.ofExcept (SystemProgram.transfer signer.key target lamports)
  return [⟨instruction, [signer]⟩]

end SolanaTransactions
