/-
Module: SolanaTransactions.Packing.Packer
Purpose: Splitting a stream of instructions into transactions that keep every limit.
Main exports: PackingJob, Batch, PackingJob.admits, PackingJob.fill, PackingJob.pack
-/
import SolanaTransactions.Packing.Error
import SolanaTransactions.Sizing.Estimate

namespace SolanaTransactions

/-!
The packer keeps one batch open.  It grows the batch by the next instruction as
long as the grown batch keeps every limit; otherwise it closes the batch and
opens the next one with that instruction alone.  The scaffolding, which goes
around the body of every batch, never enters a body.
-/

/-- What stays the same while a stream is packed. -/
structure PackingJob (σ : Type) where
  payer : Key
  /-- The instructions at the start of every batch. -/
  before : List (Authorized σ)
  /-- The instructions at the end of every batch. -/
  after : List (Authorized σ)
  /-- The lookup tables that batches may use. -/
  pool : List Candidate
  /-- The most instructions that a batch may hold. -/
  maxInstructions : Int

/-- The instructions of one transaction and the lookup tables that it is to be compiled with. -/
structure Batch (σ : Type) where
  instructions : List (Authorized σ)
  tables : List LookupTable
deriving Inhabited

namespace PackingJob

variable {σ : Type}

/-- A body with the scaffolding around it. -/
def around (job : PackingJob σ) (body : List (Authorized σ)) : List (Authorized σ) :=
  job.before ++ body ++ job.after

/-- The estimated size of the batch around a body. -/
def estimate (job : PackingJob σ) (body : List (Authorized σ)) : Estimate :=
  estimateSize ((job.around body).map (·.instruction)) job.payer job.pool

/-- Whether a batch of an estimated size and a number of instructions keeps every limit. -/
def admits (job : PackingJob σ) (estimate : Estimate) (count : Nat) : Bool :=
  estimate.size ≤ maxTransactionSize && estimate.uniqueKeys ≤ maxUniqueKeys &&
    count ≤ job.maxInstructions

/-- The batch around a body, or none when the body is empty. -/
def close (job : PackingJob σ) (body : List (Authorized σ)) (tables : List LookupTable) :
    List (Batch σ) :=
  if body.isEmpty then [] else [⟨job.around body, tables⟩]

/-- Why an instruction cannot be alone in a batch of an estimated size; the number of accounts
counts before the size. -/
def refuseAlone (instruction : Authorized σ) (alone : Estimate) : Option PackingError :=
  if alone.uniqueKeys > maxUniqueKeys then
    some (.crowdedInstruction instruction.instruction.program)
  else if alone.size > maxTransactionSize then
    some (.largeInstruction instruction.instruction.program)
  else none

/-- The batches for an open body, with the tables chosen for it, and the instructions after it. -/
def fill (job : PackingJob σ) (body : List (Authorized σ)) (tables : List LookupTable) :
    List (Authorized σ) → Except PackingError (List (Batch σ))
  | [] => .ok (job.close body tables)
  | next :: rest =>
      let grown := job.estimate (body ++ [next])
      if job.admits grown (job.around (body ++ [next])).length then
        fill job (body ++ [next]) grown.tables rest
      else
        let alone := job.estimate [next]
        match refuseAlone next alone with
        | some error => .error error
        | none => (fill job [next] alone.tables rest).map (job.close body tables ++ ·)

/-- Why nothing can be packed at all: the scaffolding alone breaks a limit, or leaves no room for
the instructions there are. -/
def refuseScaffolding (job : PackingJob σ) (instructions : List (Authorized σ)) :
    Option PackingError :=
  let alone := job.estimate []
  if alone.uniqueKeys > maxUniqueKeys then some .crowdedScaffolding
  else if alone.size > maxTransactionSize then some .largeScaffolding
  else if !instructions.isEmpty && (job.around []).length + 1 > job.maxInstructions then
    some (.fullScaffolding job.maxInstructions)
  else none

/-- The batches that a stream of instructions is packed into. -/
def pack (job : PackingJob σ) (instructions : List (Authorized σ)) :
    Except PackingError (List (Batch σ)) :=
  match job.refuseScaffolding instructions with
  | some error => .error error
  | none => job.fill [] (job.estimate []).tables instructions

end PackingJob

end SolanaTransactions
