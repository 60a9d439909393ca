/-
Module: SolanaTransactions.LookupTable.Maintenance
Purpose: Reading, creating and extending lookup tables on the chain.
Main exports:
  TableOptions, fetchTable, createTable, extendTable, createAndExtendTable, awaitSlotAfter
-/
import SolanaTransactions.LookupTable.Program
import SolanaTransactions.Packing.Dynamic
import SolanaTransactions.Sequence
import SolanaTransactions.Submission

namespace SolanaTransactions

/-!
A table is extended by as many transactions as it takes; they are submitted side
by side.  New entries can be used once the chain has moved past the slot of the
last extension, which a caller may ask to await.
-/

variable {ε : Type}

/-- What a caller may say about changes of a table. -/
structure TableOptions where
  submission : SubmissionOptions
  /-- Whether to return only when new entries can be used. -/
  awaitNewSlot : Bool
deriving DecidableEq, Inhabited, Repr

/-- Read a table from the chain. -/
def fetchTable (network : Network ε) (table : Key) : Client ε (Option LookupTable) := do
  let data ← Client.accountData network table
  return data.map (LookupTable.decode table)

/-- The options that a creating transaction is sent with: the slot that its table is derived from
may not be visible to a check before the send. -/
def creationOptions : SendOptions := { SendOptions.standard with skipPreflight := true }

/-- The latest slot of some receipts. -/
def Receipt.newestSlot? : List Receipt → Option Int
  | [] => none
  | receipt :: rest =>
      some (rest.foldl (fun newest other => if newest < other.slot then other.slot else newest)
        receipt.slot)

/-- The error of the first receipt that has one. -/
def Receipt.firstError? (receipts : List Receipt) : Option String :=
  receipts.findSome? fun receipt =>
    match receipt.result with
    | .error error => some error
    | .ok _ => none

/-- Create a table of an authority, derived from a slot or else from the latest confirmed one. -/
def createTable (scheme : SignatureScheme) (network : Network ε) (authority payer : Signer ε)
    (slot : Option Int) (options : SubmissionOptions) : Client ε (Except String Key) := do
  let slot ←
    match slot with
    | some slot => pure slot
    | none => Client.slot network (some Commitment.confirmed)
  let (instruction, table) ←
    Client.ofExcept (LookupTable.createInstruction authority.key payer.key slot)
  let built ← buildAndSign scheme network payer
    [⟨[⟨instruction, [authority]⟩], .latest (some Commitment.confirmed), []⟩]
  match built with
  | [] => throw .positionOutOfRange
  | prepared :: _ =>
      let receipt ← submit scheme network
        (.standard ⟨options.commitment, some creationOptions⟩ prepared)
      match receipt.result with
      | .error error => return .error ("Failed to create address lookup table: " ++ error)
      | .ok _ => return .ok table

/-- The producer of an instruction that extends a table. -/
def extensionProducer (table : Key) (authority payer : Signer ε) (addresses : List Key) :
    Producer ε := fun funder =>
  pure
    [⟨LookupTable.extendInstruction table authority.key (some payer.key) addresses,
      [funder, payer, authority]⟩]

/-- Ask for the slot until it lies after a given one, with half a slot between two questions and at
most `patience` further questions. -/
def awaitSlotAfter (network : Network ε) (commitment : Commitment) (slot : Int) :
    Nat → Client ε Unit
  | 0 => throw .timeout
  | patience + 1 => do
      let current ← Client.slot network (some commitment)
      if current ≤ slot then do
        Client.wait network (millisecondsPerSlot / 2 / 1000)
        awaitSlotAfter network commitment slot patience
      else return ()

/-- Append addresses to a table.  Waiting for usable entries gives up after `patience` questions. -/
def extendTable (scheme : SignatureScheme) (network : Network ε) (table : Key)
    (authority payer : Signer ε) (addresses : List Key) (options : TableOptions)
    (patience : Nat) : Client ε (Except String Key) := do
  if addresses.length > lookupTableCapacity then
    return .error ("Address lookup tables can only hold up to " ++ toString lookupTableCapacity ++
      " addresses")
  else
    let commitment := Commitment.firstGiven [options.submission.commitment]
    let producers := (chunksOf extensionChunk addresses).map
      (extensionProducer table authority payer)
    let job : DynamicJob ε := ⟨payer, producers, [], [], [], defaultMaxInstructions⟩
    match ← buildDynamic scheme network (.latest (some commitment)) job with
    | .error error => return .error ("Failed to build dynamic transactions: " ++ error.message)
    | .ok built =>
        let receipts ← submitAll scheme network (built.map (Submission.standard options.submission))
        match Receipt.firstError? receipts with
        | some error => return .error ("Failed to extend address lookup table: " ++ error)
        | none =>
            match options.awaitNewSlot, Receipt.newestSlot? receipts with
            | true, some newest => awaitSlotAfter network commitment newest patience
            | _, _ => pure ()
            return .ok table

/-- Create a table and append addresses to it. -/
def createAndExtendTable (scheme : SignatureScheme) (network : Network ε)
    (authority payer : Signer ε) (addresses : List Key) (slot : Option Int)
    (options : TableOptions) (patience : Nat) : Client ε (Except String Key) := do
  match ← createTable scheme network authority payer slot options.submission with
  | .error error => return .error error
  | .ok table => extendTable scheme network table authority payer addresses options patience

end SolanaTransactions
