/-
Module: SolanaTransactions.Client
Purpose: Operations of a client: they ask the network, take time and may stop with a fault.
Main exports:
  Client, Client.ask, Client.attempt, Client.gather, Client.wait, Client.latestBlockhash,
  Client.slot, Client.accountData, Client.simulate, Client.prioritizationFees
-/
import SolanaTransactions.Client.World

namespace SolanaTransactions

/-!
An operation keeps the state that it has reached also when it stops: what was
sent stays sent.  Questions take no time, so operations that only ask come to
their ends one after the other where they run side by side; each of them runs,
and the first fault among them is the fault of the whole.  What takes time side
by side are submissions: each of them is a flight from its first send on.
-/

/-- An operation over an environment. -/
abbrev Client (ε : Type) (α : Type) := ExceptT Fault (StateM (World ε)) α

namespace Client

variable {ε α : Type}

/-- Note an event. -/
def record (event : Event) : Client ε Unit :=
  ExceptT.lift (modify fun world => world.record event)

/-- Let the environment reply. -/
def ask (reply : ε → Except Fault α × ε) : Client ε α :=
  ExceptT.mk fun world =>
    let (outcome, environment) := reply world.environment
    (outcome, { world with environment := environment })

/-- Let the environment reply with something that takes time. -/
def askTimed {β : Type} (reply : ε → Timed β × ε) : Client ε (Timed β) :=
  ExceptT.mk fun world =>
    let (timed, environment) := reply world.environment
    (.ok timed, { world with environment := environment })

/-- Begin a flight that is made from its number and the present time.  The number is the answer. -/
def depart (network : Network ε) (flight : Nat → Rat → Flight) : Client ε Nat :=
  ExceptT.mk fun world =>
    (.ok world.nextNumber, world.depart network (flight world.nextNumber world.now))

/-- An operation whose fault is a result. -/
def attempt (operation : Client ε α) : Client ε (Except Fault α) :=
  ExceptT.lift operation.run

/-- A result or a fault that is already known. -/
def ofExcept (outcome : Except Fault α) : Client ε α := ExceptT.mk (pure outcome)

/-- The outcomes of operations that run side by side and take no time. -/
def attemptAll : List (Client ε α) → Client ε (List (Except Fault α))
  | [] => pure []
  | operation :: rest => do
      let outcome ← operation.attempt
      let outcomes ← attemptAll rest
      return outcome :: outcomes

/-- All results in order, or the first fault. -/
def allOk : List (Except Fault α) → Except Fault (List α)
  | [] => .ok []
  | .error fault :: _ => .error fault
  | .ok result :: rest => (allOk rest).map (result :: ·)

/-- Run operations side by side that take no time. -/
def gather (operations : List (Client ε α)) : Client ε (List α) := do
  let outcomes ← attemptAll operations
  ofExcept (allOk outcomes)

/-- Let some seconds pass. -/
def wait (network : Network ε) (seconds : Rat) : Client ε Unit :=
  ExceptT.lift (modify fun world => world.advance network (world.now + elapsed seconds))

/-- Ask for the latest blockhash. -/
def latestBlockhash (network : Network ε) (commitment : Option Commitment) :
    Client ε RecentBlockhash := do
  record (.blockhashAsked commitment)
  ask (network.latestBlockhash commitment)

/-- Ask for the slot. -/
def slot (network : Network ε) (commitment : Option Commitment) : Client ε Int := do
  let reply ← attempt (ask (network.slot commitment))
  record (.slotAsked commitment reply)
  ofExcept reply

/-- Ask for the data of an account. -/
def accountData (network : Network ε) (account : Key) : Client ε (Option Bytes) := do
  record (.accountAsked account)
  ask (network.accountData account)

/-- Ask how a transaction would run. -/
def simulate (network : Network ε) (transaction : Transaction) : Client ε Simulation := do
  record (.simulated transaction)
  ask (network.simulate transaction)

/-- Ask for the fees that were paid lately by transactions that write to some accounts. -/
def prioritizationFees (network : Network ε) (accounts : List Key) :
    Client ε (List FeeSample) := do
  record (.feesAsked accounts)
  ask (network.prioritizationFees accounts)

/-- The send options that the connection is set to. -/
def connectionOptions (network : Network ε) : Client ε (Option SendOptions) :=
  ExceptT.lift do return network.options (← get).environment

/-- The commitment that the connection is set to. -/
def connectionCommitment (network : Network ε) : Client ε (Option Commitment) :=
  ExceptT.lift do return network.commitment (← get).environment

end Client

end SolanaTransactions
