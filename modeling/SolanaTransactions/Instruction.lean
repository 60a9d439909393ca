/-
Module: SolanaTransactions.Instruction
Purpose: Instructions, the accounts they use and the signers that authorize them.
Main exports: AccountMeta, Instruction, Authorized, Instruction.writableKeys
-/
import SolanaTransactions.Key

namespace SolanaTransactions

/-- One use of an account by an instruction. -/
structure AccountMeta where
  key : Key
  /-- Whether the account has to sign. -/
  signer : Bool
  /-- Whether the instruction may write to the account. -/
  writable : Bool
deriving DecidableEq, Inhabited, Repr

/-- A call of a program with a list of accounts and opaque data. -/
structure Instruction where
  program : Key
  accounts : List AccountMeta
  data : Bytes
deriving DecidableEq, Inhabited, Repr

/-- An instruction together with the signers who authorize it. -/
structure Authorized (σ : Type) where
  instruction : Instruction
  signers : List σ
deriving Inhabited

/-- The accounts that some instruction writes, each once, in the order of their first writable
use. -/
def Instruction.writableKeys (instructions : List Instruction) : List Key :=
  (instructions.flatMap fun instruction =>
    (instruction.accounts.filter (·.writable)).map (·.key)).foldl
      (fun seen key => if key ∈ seen then seen else seen ++ [key]) []

end SolanaTransactions
