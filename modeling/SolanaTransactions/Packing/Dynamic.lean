/-
Module: SolanaTransactions.Packing.Dynamic
Purpose: Packing what producers make, and building the batches as signed transactions.
Main exports: DynamicJob, packProduced, buildDynamic, Batch.plan
-/
import SolanaTransactions.Packing.Packer
import SolanaTransactions.Signing.Coordinator

namespace SolanaTransactions

variable {ε : Type}

/-- Instructions to be made and packed, and what goes around them. -/
structure DynamicJob (ε : Type) where
  payer : Signer ε
  producers : List (Producer ε)
  before : List (Producer ε)
  after : List (Producer ε)
  tables : List LookupTable
  maxInstructions : Int

/-- Run all producers, first those of the stream and then those around it, and pack what they
make. -/
def packProduced (job : DynamicJob ε) :
    Client ε (Except PackingError (List (Batch (Signer ε)))) := do
  let stream ← Producer.resolve job.producers job.payer
  let before ← Producer.resolve job.before job.payer
  let after ← Producer.resolve job.after job.payer
  let packing : PackingJob (Signer ε) :=
    { payer := job.payer.key
      before := before
      after := after
      pool := job.tables.map Candidate.ofTable
      maxInstructions := job.maxInstructions }
  return packing.pack stream

/-- The transaction to be built from a batch. -/
def Batch.plan (source : BlockhashSource) (batch : Batch (Signer ε)) : Plan ε :=
  ⟨batch.instructions, source, batch.tables⟩

/-- Pack what producers make into transactions, and have all of them signed. -/
def buildDynamic (scheme : SignatureScheme) (network : Network ε) (source : BlockhashSource)
    (job : DynamicJob ε) : Client ε (Except PackingError (List Prepared)) := do
  match ← packProduced job with
  | .error error => return .error error
  | .ok batches =>
      let signed ← buildAndSign scheme network job.payer (batches.map (·.plan source))
      return .ok signed

end SolanaTransactions
