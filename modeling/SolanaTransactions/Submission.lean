/-
Module: SolanaTransactions.Submission
Purpose: Sending signed transactions, and sending them again until they are confirmed.
Main exports:
  SubmissionOptions, Submission, Receipt, Submission.launch, Submission.launchBeside, submitAll,
  submit
-/
import SolanaTransactions.Limits
import SolanaTransactions.Signing.Coordinator

namespace SolanaTransactions

/-!
A submission checks its transaction, sends it once and awaits the confirmation.
Meanwhile the same bytes are sent again, which neither changes the outcome nor
outlasts the confirmation.  A transaction that lands and fails is a receipt with
an error; a fault is only what keeps the outcome unknown.

Submissions side by side are all checked and sent before any time passes, and
none of them waits for another.  The first fault in time ends the wait for all;
the submissions that have not ended by then go on.
-/

/-- What a caller may say about a submission. -/
structure SubmissionOptions where
  commitment : Option Commitment
  sendOptions : Option SendOptions
deriving DecidableEq, Inhabited, Repr

/-- A transaction to be submitted. -/
structure Submission where
  prepared : Prepared
  options : SubmissionOptions
  /-- The seconds between two sends. -/
  interval : Rat
  /-- How often the transaction is sent again at most. -/
  maxRetries : Int

/-- A submission with the usual interval and number of retries. -/
def Submission.standard (options : SubmissionOptions) (prepared : Prepared) : Submission :=
  ⟨prepared, options, defaultRetrySeconds, defaultMaxRetries⟩

/-- Where a transaction landed, and its signature or what went wrong in it. -/
structure Receipt where
  slot : Int
  result : Except String Signature
deriving Repr

/-- The receipt that a confirmation is for a signature. -/
def Receipt.ofConfirmation (signature : Signature) (confirmation : Confirmation) : Receipt :=
  match confirmation.error with
  | none => ⟨confirmation.slot, .ok signature⟩
  | some error => ⟨confirmation.slot, .error error⟩

namespace Submission

variable {ε : Type}

/-- The options that a submission is sent with: its own, else those of the connection, else the
standard ones. -/
def effectiveOptions (submission : Submission) (connection : Option SendOptions) : SendOptions :=
  submission.options.sendOptions.getD (connection.getD SendOptions.standard)

/-- The bytes that a submission sends. -/
def raw (submission : Submission) : Bytes := submission.prepared.transaction.toBytes

/-- How deeply the transaction of a submission is to be buried. -/
def awaited (submission : Submission) : Commitment :=
  Commitment.firstGiven [submission.options.commitment]

/-- The flight of a submission whose first send has a reply at a time. -/
def departure (submission : Submission) (options : SendOptions) (number : Nat) (ends : Rat)
    (reply : Except Fault Signature) : Flight :=
  { number := number
    raw := submission.raw
    options := options.forResend
    blockhash := submission.prepared.blockhash
    commitment := submission.awaited
    interval := submission.interval
    retries := submission.maxRetries.toNat
    phase := .departing ends reply }

/-- Send a transaction for the first time; the signature is the answer. -/
def send (network : Network ε) (raw : Bytes) (options : SendOptions) : Client ε Signature := do
  Client.record (.sent raw options)
  let sending ← Client.askTimed (network.send raw options)
  Client.wait network sending.seconds
  Client.ofExcept sending.reply

/-- Check a transaction, send it and begin to await its confirmation.  The number of the flight is
the answer. -/
def launch (scheme : SignatureScheme) (network : Network ε) (submission : Submission) :
    Client ε Nat := do
  Client.ofExcept (submission.prepared.transaction.verify scheme)
  let options := submission.effectiveOptions (← Client.connectionOptions network)
  let signature ← send network submission.raw options
  Client.depart network fun number now => submission.departure options number now (.ok signature)

/-- Check a transaction and begin to send it.  One that is refused is treated like one whose send
fails at once. -/
def beginSend (scheme : SignatureScheme) (network : Network ε) (submission : Submission)
    (options : SendOptions) : Client ε (Timed (Except Fault Signature)) :=
  match submission.prepared.transaction.verify scheme with
  | .error fault => pure ⟨0, .error fault⟩
  | .ok _ => do
      Client.record (.sent submission.raw options)
      Client.askTimed (network.send submission.raw options)

/-- Begin a submission that others run beside: nobody waits for its first send.  The number of the
flight is the answer. -/
def launchBeside (scheme : SignatureScheme) (network : Network ε) (submission : Submission) :
    Client ε Nat := do
  let options := submission.effectiveOptions (← Client.connectionOptions network)
  let sending ← submission.beginSend scheme network options
  Client.depart network fun number now =>
    submission.departure options number (now + elapsed sending.seconds) sending.reply

end Submission

variable {ε : Type}

/-- The receipt of a flight that was confirmed. -/
def Landing.receipt? (landing : Landing) : Option Receipt :=
  match landing.outcome with
  | .ok confirmation => some (Receipt.ofConfirmation landing.signature confirmation)
  | .error _ => none

/-- Await the flights with the numbers of a list, and make out their receipts.  The first fault ends
the wait; the flights that have not landed by then go on. -/
def awaitReceipts (network : Network ε) (numbers : List Nat) : Client ε (List Receipt) :=
  ExceptT.mk fun world =>
    let later := world.settle network numbers
    match later.faultAmong numbers with
    | some fault => (.error fault, later)
    | none =>
        (.ok (numbers.filterMap fun number => (later.landing? number).bind Landing.receipt?), later)

/-- Submit transactions side by side, and await all of them. -/
def submitAll (scheme : SignatureScheme) (network : Network ε) (submissions : List Submission) :
    Client ε (List Receipt) := do
  let numbers ← submissions.mapM (Submission.launchBeside scheme network)
  awaitReceipts network numbers

/-- Submit a transaction and await its confirmation. -/
def submit (scheme : SignatureScheme) (network : Network ε) (submission : Submission) :
    Client ε Receipt := do
  let number ← submission.launch scheme network
  match ← awaitReceipts network [number] with
  | receipt :: _ => return receipt
  | [] => throw .connection

end SolanaTransactions
