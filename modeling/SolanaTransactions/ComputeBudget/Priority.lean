/-
Module: SolanaTransactions.ComputeBudget.Priority
Purpose: Transactions whose compute budget comes from simulation and from recent fees.
Main exports:
  PriorityRules, simulationTransaction, simulatedUnits, signWithBudget, buildDynamicWithBudget
-/
import SolanaTransactions.ComputeBudget
import SolanaTransactions.ComputeBudget.RecentFee
import SolanaTransactions.Packing.Dynamic

namespace SolanaTransactions

/-!
The compute budget of a transaction is known only once the transaction has been
simulated, and the simulated transaction already needs a budget.  So batches are
packed and simulated with placeholders in front, which are as large as any real
budget instructions, and the placeholders are swapped for the real ones.
-/

variable {ε : Type}

/-- Where the compute unit limit and the price of a transaction come from. -/
structure PriorityRules (ε : Type) where
  limit : Option (Transaction → Client ε (Option Int))
  price : Option (List Key → Client ε (Option Int))

/-- The unsigned transaction that is simulated in place of a real one. -/
def simulationTransaction (payer : Key) (instructions : List Instruction)
    (tables : List LookupTable) (blockhash : Blockhash) : Except Fault Transaction :=
  match (Draft.mk payer instructions).compile tables blockhash with
  | .ok message => .ok (Transaction.unsigned message)
  | .error cause => .error (.compile cause)

/-- The compute units that a simulated transaction used, unless it failed. -/
def simulatedUnits (network : Network ε) (transaction : Transaction) : Client ε (Option Int) := do
  let simulation ← Client.simulate network transaction
  return if simulation.error.isSome then none else simulation.units

/-- The transaction to simulate, when the rules ask for a limit. -/
def PriorityRules.trial (rules : PriorityRules ε) (payer : Key) (instructions : List Instruction)
    (tables : List LookupTable) : Except Fault (Option Transaction) :=
  match rules.limit with
  | none => .ok none
  | some _ => (simulationTransaction payer instructions tables Blockhash.zero).map some

/-- The limit for a transaction to simulate. -/
def PriorityRules.askLimit (rules : PriorityRules ε) (trial : Option Transaction) :
    Client ε (Option Int) :=
  match rules.limit, trial with
  | some limit, some transaction => limit transaction
  | _, _ => pure none

/-- The price for a list of written accounts. -/
def PriorityRules.askPrice (rules : PriorityRules ε) (accounts : List Key) :
    Client ε (Option Int) :=
  match rules.price with
  | some price => price accounts
  | none => pure none

/-- The budget instructions for a limit and a price, which nobody has to sign. -/
def budgetInstructions (units price : Option Int) :
    Except Fault (List (Authorized (Signer ε))) :=
  (ComputeBudget.instructions units price).map fun instructions =>
    instructions.map fun instruction => ⟨instruction, []⟩

/-- A fresh blockhash as the source of blockhashes, with the commitment of the connection. -/
def freshSource (network : Network ε) (blockhash : RecentBlockhash) :
    Client ε BlockhashSource := do
  let own ← Client.connectionCommitment network
  return .known blockhash (Commitment.firstGiven [own])

/-- Build and sign one transaction with the compute budget that the rules ask for. -/
def signWithBudget (scheme : SignatureScheme) (network : Network ε) (payer : Signer ε)
    (rules : PriorityRules ε) (producers : List (Producer ε)) (tables : List LookupTable) :
    Client ε (List Prepared) := do
  let made ← Producer.resolve producers payer
  let plain := made.map (·.instruction)
  let trial ← Client.ofExcept (rules.trial payer.key (ComputeBudget.placeholders ++ plain) tables)
  let limit ← (rules.askLimit trial).attempt
  let price ← (rules.askPrice (Instruction.writableKeys plain)).attempt
  let latest ← (Client.latestBlockhash network none).attempt
  let units ← Client.ofExcept limit
  let microLamports ← Client.ofExcept price
  let blockhash ← Client.ofExcept latest
  let budget ← Client.ofExcept (budgetInstructions units microLamports)
  let source ← freshSource network blockhash
  buildAndSign scheme network payer [⟨budget ++ made, source, tables⟩]

/-- The instructions of a batch with the real budget in place of the placeholders. -/
def withRealBudget (rules : PriorityRules ε) (payer : Key) (batch : Batch (Signer ε)) :
    Except Fault (Client ε (List (Authorized (Signer ε)))) := do
  let instructions := batch.instructions.map (·.instruction)
  let trial ← rules.trial payer instructions batch.tables
  return do
    let limit ← (rules.askLimit trial).attempt
    let price ← (rules.askPrice (Instruction.writableKeys instructions)).attempt
    let units ← Client.ofExcept limit
    let microLamports ← Client.ofExcept price
    let budget ← Client.ofExcept (budgetInstructions units microLamports)
    return budget ++ batch.instructions.drop ComputeBudget.placeholders.length

/-- Pack what producers make into transactions with a compute budget each, and have all of them
signed over one blockhash. -/
def buildDynamicWithBudget (scheme : SignatureScheme) (network : Network ε)
    (rules : PriorityRules ε) (job : DynamicJob ε) :
    Client ε (Except PackingError (List Prepared)) := do
  let placeholders := ComputeBudget.placeholders.map Producer.ofInstruction
  match ← packProduced { job with before := placeholders ++ job.before } with
  | .error error => return .error error
  | .ok batches =>
      let latest ← (Client.latestBlockhash network none).attempt
      let budgeting := batches.map fun batch =>
        match withRealBudget rules job.payer.key batch with
        | .ok ask => ask
        | .error fault => throw fault
      let outcomes ← Client.attemptAll budgeting
      let blockhash ← Client.ofExcept latest
      let budgeted ← Client.ofExcept (Client.allOk outcomes)
      let source ← freshSource network blockhash
      let plans := List.zipWith (fun instructions (batch : Batch (Signer ε)) =>
        (⟨instructions, source, batch.tables⟩ : Plan ε)) budgeted batches
      let signed ← buildAndSign scheme network job.payer plans
      return .ok signed

end SolanaTransactions
