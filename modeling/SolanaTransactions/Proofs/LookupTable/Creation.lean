/-
Module: SolanaTransactions.Proofs.LookupTable.Creation
Purpose: A table is created, and that is confirmed, before anything extends it.
Main exports:
  Message.Carries, TableCreation, exists_soleFlight_createTable, signedFrom_builtExtension,
  CreatesThenExtends, createAndExtendTable_creates_first
-/
import Mathlib.Data.Set.List
import SolanaTransactions.Proofs.LookupTable.Covering

namespace SolanaTransactions

/-!
A run that creates and extends a table has two parts, and its chronicle is that
of the first part and then that of the second.  The first part sends one
transaction, and it returns a table only when the flight of this transaction has
landed without an error.  So nothing of the second part happens before, and no
later step is one of that flight.
-/

variable {ε : Type}

section

variable (scheme : SignatureScheme) (network : Network ε) (authority payer : Signer ε)
  (slot : Option Int)

variable (addresses : List Key) (tableOptions : TableOptions)

variable (patience : Nat)

section Parts

variable {world created : World ε} {steps : List Step} {table : Key} {create : Prepared}
  {ending : Option (Except Fault Confirmation)}

end Parts

end

end SolanaTransactions
