/-
Module: SolanaTransactions.Rehearsal.Script
Purpose: A network whose replies are written down in advance.
Main exports: Ending, Script, Script.network, Script.slowNetwork
-/
import SolanaTransactions.Client

namespace SolanaTransactions

/-!
A script is a network without nodes.  It counts slots, hands out blockhashes that
are numbered in the order in which they are asked for, accepts what is sent, and
ends confirmations and simulations as its lists say, front to back.
-/

/-- How one awaited confirmation ends.  What is not given is taken from the script. -/
structure Ending where
  /-- The seconds that the confirmation takes. -/
  seconds : Option Rat
  /-- The fault with which the wait is broken off. -/
  fault : Option Fault
  slot : Option Int
  error : Option String
deriving Inhabited, Repr

/-- A confirmation about which nothing is said. -/
def Ending.plain : Ending := ⟨none, none, none, none⟩

/-- The replies that a network still has to give. -/
structure Script where
  commitment : Option Commitment
  options : Option SendOptions
  slot : Int
  /-- What every question for the slot adds to it. -/
  slotStep : Int
  /-- The seconds that a confirmation takes unless its ending says. -/
  delay : Rat
  endings : List Ending
  /-- The numbers of the sends that fail; the first send has the number 0. -/
  failingSends : List Int
  simulations : List Simulation
  fees : List FeeSample
  accounts : List (Key × Bytes)
  /-- Whether no blockhash can be had. -/
  withholdsBlockhash : Bool
  /-- How many blockhashes were handed out. -/
  blockhashes : Nat
  /-- How often something was sent. -/
  sends : Nat
deriving Inhabited, Repr

namespace Script

/-- The script in which everything succeeds at once. -/
def plain : Script :=
  { commitment := some Commitment.confirmed
    options := none
    slot := 100
    slotStep := 1
    delay := 0
    endings := []
    failingSends := []
    simulations := []
    fees := []
    accounts := []
    withholdsBlockhash := false
    blockhashes := 0
    sends := 0 }

/-- Hand out the next blockhash. -/
def replyBlockhash (script : Script) : Except Fault RecentBlockhash × Script :=
  if script.withholdsBlockhash then (.error .connection, script)
  else
    let number := script.blockhashes + 1
    (.ok ⟨Blockhash.ofNat (1000 + number), 500 + number⟩, { script with blockhashes := number })

/-- Move on to the next slot. -/
def replySlot (script : Script) : Except Fault Int × Script :=
  let slot := script.slot + script.slotStep
  (.ok slot, { script with slot := slot })

/-- The signature that the bytes of a transaction begin with, after their count. -/
def firstSignature (raw : Bytes) : Except Fault Signature := Signature.read ((raw.drop 1).take 64)

/-- Accept a transaction, unless this send is one that fails.  The answer is the first signature. -/
def replySend (raw : Bytes) (script : Script) : Timed (Except Fault Signature) × Script :=
  let fails := script.failingSends.contains (script.sends : Int)
  let reply := if fails then .error .connection else firstSignature raw
  (⟨0, reply⟩, { script with sends := script.sends + 1 })

/-- End a confirmation as the script says next. -/
def replyConfirm (script : Script) : Timed (Except Fault Confirmation) × Script :=
  let ending := script.endings.headD Ending.plain
  let reply :=
    match ending.fault with
    | some fault => .error fault
    | none => .ok ⟨ending.slot.getD script.slot, ending.error⟩
  (⟨ending.seconds.getD script.delay, reply⟩, { script with endings := script.endings.tail })

/-- Run a simulation as the script says next. -/
def replySimulate (script : Script) : Except Fault Simulation × Script :=
  (.ok (script.simulations.headD ⟨none, none⟩),
    { script with simulations := script.simulations.tail })

/-- The network that a script describes. -/
def network : Network Script :=
  { commitment := Script.commitment
    options := Script.options
    latestBlockhash := fun _ script => script.replyBlockhash
    slot := fun _ script => script.replySlot
    accountData := fun account script => (.ok (script.accounts.reverse.lookup account), script)
    send := fun raw _ script => script.replySend raw
    confirm := fun _ _ _ script => script.replyConfirm
    simulate := fun _ script => script.replySimulate
    prioritizationFees := fun _ script => (.ok script.fees, script) }

/-- The network that a script describes, with sends that take some seconds each, in their order. -/
def slowNetwork (seconds : List Rat) : Network Script :=
  { network with
    send := fun raw _ script =>
      let (sending, later) := script.replySend raw
      (⟨seconds.getD script.sends 0, sending.reply⟩, later) }

end Script

end SolanaTransactions
