/-
Module: SolanaTransactions.Client.Event
Purpose: What a client does in the sight of others.
Main exports: Event, TraceEntry
-/
import SolanaTransactions.Network

namespace SolanaTransactions

/-- One thing that a client does or learns. -/
inductive Event where
  /-- A producer of instructions runs for a funder. -/
  | produced (funder : String)
  /-- A signer is handed transactions. -/
  | signing (name : String) (key : Key) (transactions : List Transaction)
  | blockhashAsked (commitment : Option Commitment)
  /-- The slot is asked for and answered. -/
  | slotAsked (commitment : Option Commitment) (reply : Except Fault Int)
  | accountAsked (account : Key)
  | sent (raw : Bytes) (options : SendOptions)
  /-- The wait for a confirmation begins. -/
  | confirming (signature : Signature) (commitment : Commitment) (lastValidHeight : Int)
  /-- A flight ends.  The signature is blank when its first send was not accepted. -/
  | settled (signature : Signature) (outcome : Except Fault Confirmation)
  | simulated (transaction : Transaction)
  | feesAsked (accounts : List Key)
deriving Repr

/-- An event and the time at which it happens, in seconds. -/
structure TraceEntry where
  time : Rat
  event : Event
deriving Repr

end SolanaTransactions
