/-
Module: SolanaTransactions.SystemProgram
Purpose: The system program and its transfer instruction.
Main exports: SystemProgram.program, SystemProgram.transfer
-/
import SolanaTransactions.Fault
import SolanaTransactions.Limits

namespace SolanaTransactions.SystemProgram

/-- The system program, whose key is 32 zero bytes. -/
def program : Key := Key.ofNat 0

/-- The instruction that moves an amount from one account to another. -/
def transfer (source target : Key) (lamports : Int) : Except Fault Instruction :=
  if lamports < 0 ∨ wordLimit ≤ lamports then .error (.lamportsOutOfRange lamports)
  else
    .ok ⟨program, [⟨source, true, true⟩, ⟨target, false, true⟩],
      Bytes.littleEndian 4 2 ++ Bytes.littleEndian 8 lamports.toNat⟩

end SolanaTransactions.SystemProgram
