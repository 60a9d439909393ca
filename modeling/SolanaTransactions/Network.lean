/-
Module: SolanaTransactions.Network
Purpose: What a node of the network is asked, and how any node may behave.
Main exports:
  Commitment, SendOptions, RecentBlockhash, Confirmation, Simulation, FeeSample, Timed, Network
-/
import SolanaTransactions.Limits
import SolanaTransactions.Transaction

namespace SolanaTransactions

/-!
A network is a family of replies over a state of its own.  Nothing is assumed of
the replies: each may depend on everything that was asked before, may fail, and
may take any time where time matters.  What is proved about operations over a
network therefore holds for every node and every connection.
-/

/-- How deeply a block is buried, as a word that nodes understand. -/
abbrev Commitment := String

/-- A block that a supermajority has voted for. -/
def Commitment.confirmed : Commitment := "confirmed"

/-- A block that cannot be undone. -/
def Commitment.finalized : Commitment := "finalized"

/-- The first commitment that is given; an empty word counts as not given. -/
def Commitment.firstGiven (candidates : List (Option Commitment)) : Commitment :=
  (candidates.filterMap id).find? (fun word => word != "") |>.getD Commitment.confirmed

/-- How a node is to treat a transaction that is sent to it. -/
structure SendOptions where
  skipConfirmation : Bool
  skipPreflight : Bool
  preflightCommitment : Commitment
  maxRetries : Option Int
  lastValidHeight : Option Int
deriving DecidableEq, Repr

/-- The options when the caller does not say. -/
def SendOptions.standard : SendOptions := ⟨true, false, Commitment.finalized, none, none⟩

instance : Inhabited SendOptions := ⟨SendOptions.standard⟩

/-- The options with which a transaction is sent again: no checks that were made before. -/
def SendOptions.forResend (options : SendOptions) : SendOptions :=
  { options with skipPreflight := true, skipConfirmation := true }

/-- A blockhash and the last block height at which a transaction with it is valid. -/
structure RecentBlockhash where
  hash : Blockhash
  lastValidHeight : Int
deriving DecidableEq, Inhabited, Repr

/-- The blockhash that is valid up to a height, which has to be a number of 64 bits. -/
def RecentBlockhash.upTo (hash : Blockhash) (height : Int) : Except Fault RecentBlockhash :=
  if 0 ≤ height ∧ height < wordLimit then .ok ⟨hash, height⟩ else .error (.heightOutOfRange height)

/-- A block that holds a transaction, and what went wrong in it. -/
structure Confirmation where
  slot : Int
  error : Option String
deriving DecidableEq, Inhabited, Repr

/-- The outcome of a simulated transaction. -/
structure Simulation where
  error : Option String
  units : Option Int
deriving DecidableEq, Inhabited, Repr

/-- The least fee that was paid in a slot. -/
structure FeeSample where
  slot : Int
  fee : Int
deriving DecidableEq, Inhabited, Repr

/-- A reply that takes some seconds. -/
structure Timed (α : Type) where
  seconds : Rat
  reply : α

/-- A network over a state: its settings, and its reply to every question. -/
structure Network (ε : Type) where
  /-- The commitment that the connection is set to. -/
  commitment : ε → Option Commitment
  /-- The send options that the connection is set to. -/
  options : ε → Option SendOptions
  latestBlockhash : Option Commitment → ε → Except Fault RecentBlockhash × ε
  slot : Option Commitment → ε → Except Fault Int × ε
  accountData : Key → ε → Except Fault (Option Bytes) × ε
  send : Bytes → SendOptions → ε → Timed (Except Fault Signature) × ε
  confirm : Signature → RecentBlockhash → Commitment → ε → Timed (Except Fault Confirmation) × ε
  simulate : Transaction → ε → Except Fault Simulation × ε
  prioritizationFees : List Key → ε → Except Fault (List FeeSample) × ε

end SolanaTransactions
