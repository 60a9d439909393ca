/-
Module: SolanaTransactions.Signing.Coordinator
Purpose: Building transactions and having each signed by everyone who has to.
Main exports:
  BlockhashSource, Plan, Payer, BuiltMessage, Registration, Registrations.ofPlans,
  Prepared, buildMessages, signPrepared, buildAndSign
-/
import SolanaTransactions.LookupTable
import SolanaTransactions.Signing.Signer

namespace SolanaTransactions

/-!
Every key is asked once, through the first signer registered under it, for all
transactions it takes part in.  Remote signers are asked first, one after the
other, then the local ones; each sees what the earlier ones have done.  In the
end every slot of every transaction is checked.
-/

/-- Where a transaction gets its blockhash from. -/
inductive BlockhashSource where
  /-- A known blockhash and the commitment it was read with. -/
  | known (blockhash : RecentBlockhash) (commitment : Commitment)
  /-- The latest one of the network, at a commitment when one is given. -/
  | latest (commitment : Option Commitment)
deriving Repr

/-- A transaction to be built. -/
structure Plan (ε : Type) where
  instructions : List (Authorized (Signer ε))
  source : BlockhashSource
  tables : List LookupTable

/-- Who pays for transactions: a signer, or a bare key whose signature comes from elsewhere. -/
inductive Payer (ε : Type) where
  | signer (payer : Signer ε)
  | key (account : Key)

/-- The key of a payer. -/
def Payer.account {ε : Type} : Payer ε → Key
  | .signer payer => payer.key
  | .key account => account

/-- A compiled message with the blockhash and the commitment it was built for. -/
structure BuiltMessage where
  message : Message
  blockhash : RecentBlockhash
  commitment : Commitment
deriving DecidableEq, Repr

/-- A transaction with the blockhash and the commitment it was built for. -/
structure Prepared where
  transaction : Transaction
  blockhash : RecentBlockhash
  commitment : Commitment
deriving DecidableEq, Inhabited, Repr

/-- The unsigned transaction of a built message. -/
def BuiltMessage.prepare (built : BuiltMessage) : Prepared :=
  ⟨Transaction.unsigned built.message, built.blockhash, built.commitment⟩

/-- A signer and the positions of the transactions that it takes part in, in ascending order.  A
negative position counts from the end. -/
structure Registration (ε : Type) where
  signer : Signer ε
  positions : List Int

namespace Registration

variable {ε : Type}

/-- Put a position into an ascending list, unless it is there. -/
def insertPosition (position : Int) : List Int → List Int
  | [] => [position]
  | head :: rest =>
      if position < head then position :: head :: rest
      else if position = head then head :: rest
      else head :: insertPosition position rest

/-- A signer with a list of positions in any order. -/
def ofPositions (signer : Signer ε) (positions : List Int) : Registration ε :=
  ⟨signer, positions.foldr insertPosition []⟩

/-- Write an entry into a list with one entry a key: it takes the place of the entry of its key, or
the last place. -/
def put (entry : Registration ε) : List (Registration ε) → List (Registration ε)
  | [] => [entry]
  | other :: rest =>
      if other.signer.key = entry.signer.key then entry :: rest else other :: put entry rest

/-- The registrations that a list of signers and positions gives; of two signers of one key the
later one counts. -/
def ofList (listed : List (Signer ε × List Int)) : List (Registration ε) :=
  listed.foldl (fun entries (signer, positions) => put (ofPositions signer positions) entries) []

/-- Register a signer for the transaction at a position.  The first signer of a key keeps its
place, and takes on the position. -/
def add (signer : Signer ε) (position : Int) : List (Registration ε) → List (Registration ε)
  | [] => [⟨signer, [position]⟩]
  | entry :: rest =>
      if entry.signer.key = signer.key then
        { entry with positions := insertPosition position entry.positions } :: rest
      else entry :: add signer position rest

/-- The registrations of all signers: the payer first, for every transaction, then the signers of
the instructions in their order. -/
def ofPlans (payer : Payer ε) (plans : List (Plan ε)) : List (Registration ε) :=
  let first :=
    match payer with
    | .signer payer => [⟨payer, (List.range plans.length).map Int.ofNat⟩]
    | .key _ => []
  let listed := (plans.mapIdx fun position plan =>
    plan.instructions.flatMap fun instruction =>
      instruction.signers.map fun signer => (signer, (position : Int))).flatten
  listed.foldl (fun entries (signer, position) => add signer position entries) first

end Registration

variable {ε : Type}

/-- Find the blockhash of a transaction. -/
def BlockhashSource.resolve (network : Network ε) :
    BlockhashSource → Client ε (RecentBlockhash × Commitment)
  | known blockhash commitment => pure (blockhash, commitment)
  | latest commitment => do
      let own ← Client.connectionCommitment network
      let chosen := Commitment.firstGiven [commitment, own]
      let blockhash ← Client.latestBlockhash network (some chosen)
      return (blockhash, chosen)

/-- Compile the message of a plan. -/
def Plan.build (network : Network ε) (payer : Key) (plan : Plan ε) : Client ε BuiltMessage := do
  let (blockhash, commitment) ← plan.source.resolve network
  let draft : Draft := ⟨payer, plan.instructions.map (·.instruction)⟩
  match draft.compile plan.tables blockhash.hash with
  | .ok message => return ⟨message, blockhash, commitment⟩
  | .error cause => throw (.compile cause)

/-- Compile the messages of plans, and register their signers. -/
def buildMessages (network : Network ε) (payer : Payer ε) (plans : List (Plan ε)) :
    Client ε (List BuiltMessage × List (Registration ε)) := do
  let built ← Client.gather (plans.map fun plan => plan.build network payer.account)
  return (built, Registration.ofPlans payer plans)

/-- The place in a list of some length that a position means. -/
def placeOf? (length : Nat) (position : Int) : Option Nat :=
  let place := if position < 0 then position + length else position
  if 0 ≤ place ∧ place < length then some place.toNat else none

/-- The transactions at some places. -/
def Prepared.select (prepared : List Prepared) (places : List Nat) : List Transaction :=
  places.filterMap fun place => (prepared[place]?).map (·.transaction)

/-- Put transactions into some places. -/
def Prepared.replace (prepared : List Prepared) (places : List Nat)
    (transactions : List Transaction) : List Prepared :=
  (places.zip transactions).foldl
    (fun current (place, transaction) =>
      current.modify place fun entry => { entry with transaction := transaction })
    prepared

/-- Have one signer sign everything it is registered for. -/
def signEntry (prepared : List Prepared) (entry : Registration ε) :
    Client ε (List Prepared) := do
  match entry.positions.mapM (placeOf? prepared.length) with
  | none => throw .positionOutOfRange
  | some places =>
      let asked := Prepared.select prepared places
      let signed ← entry.signer.signAll asked
      if signed.length = asked.length then
        return Prepared.replace prepared places signed
      else
        throw (.signingIncomplete (.wrongCount entry.signer.key signed.length asked.length))

/-- The order in which signers are asked: the remote ones first. -/
def Registration.signingOrder (entries : List (Registration ε)) : List (Registration ε) :=
  (entries.filter fun entry => entry.signer.remote) ++
    entries.filter fun entry => !entry.signer.remote

/-- Refuse a transaction with a blank slot, or with a slot that does not verify when the
transaction is versioned. -/
def Transaction.checkSigned (scheme : SignatureScheme) (index : Nat) (transaction : Transaction) :
    Except Fault Unit :=
  let signed := transaction.message.toBytes
  transaction.checkSlots fun _ key signature =>
    if signature = Signature.blank then some (.signingIncomplete (.missing index key))
    else if transaction.isVersioned && !scheme.verifies key signed signature then
      some (.signingIncomplete (.invalid index key))
    else none

/-- Refuse the first transaction from an index on that is not signed. -/
def checkAllSigned (scheme : SignatureScheme) : Nat → List Prepared → Except Fault Unit
  | _, [] => .ok ()
  | index, entry :: rest => do
      entry.transaction.checkSigned scheme index
      checkAllSigned scheme (index + 1) rest

/-- Have transactions signed by all registered signers, and check them. -/
def signPrepared (scheme : SignatureScheme) (prepared : List Prepared)
    (entries : List (Registration ε)) : Client ε (List Prepared) := do
  let signed ← (Registration.signingOrder entries).foldlM signEntry prepared
  Client.ofExcept (checkAllSigned scheme 0 signed)
  return signed

/-- Build and sign transactions. -/
def buildAndSign (scheme : SignatureScheme) (network : Network ε) (payer : Signer ε)
    (plans : List (Plan ε)) : Client ε (List Prepared) := do
  let (built, entries) ← buildMessages network (.signer payer) plans
  signPrepared scheme (built.map (·.prepare)) entries

/-- A transaction to be built from what producers make. -/
structure Request (ε : Type) where
  producers : List (Producer ε)
  source : BlockhashSource
  tables : List LookupTable

/-- Run the producers of requests side by side, then build and sign the transactions. -/
def produceAndSign (scheme : SignatureScheme) (network : Network ε) (payer : Signer ε)
    (requests : List (Request ε)) : Client ε (List Prepared) := do
  let made ← Client.gather (requests.map fun request => Producer.resolve request.producers payer)
  buildAndSign scheme network payer
    (List.zipWith (fun instructions request => ⟨instructions, request.source, request.tables⟩)
      made requests)

end SolanaTransactions
