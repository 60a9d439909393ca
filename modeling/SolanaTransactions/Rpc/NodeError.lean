/-
Module: SolanaTransactions.Rpc.NodeError
Purpose: The errors that a node answers with in place of a result.
Main exports: NodeError, NodeError.ofJson?
-/
import SolanaTransactions.Rpc.Simulated

namespace SolanaTransactions

/-!
An error has a code.  The codes of JSON-RPC and those of the network are known, and an
error with one of them has to be complete: most need a message, and some need data
that explain it.  Of an error with another code nothing but the code is read.
-/

/-- An error of a node. -/
inductive NodeError where
  /-- An error with a code that clients know. -/
  | known (code : Int)
  /-- An error with another code. -/
  | other (code : Int)
deriving DecidableEq, Inhabited, Repr

namespace NodeError

open JsonValue

/-- The codes of errors that need not say anything. -/
def wordlessCodes : List Int := [-32003, -32008, -32011, -32013]

/-- The codes of errors that need a message. -/
def messageCodes : List Int :=
  [-32001, -32004, -32006, -32007, -32009, -32010, -32012, -32014, -32015, -32700, -32600, -32601,
   -32602, -32603]

/-- The code of a transaction that fails before it is sent. -/
def preflightCode : Int := -32002

/-- The code of a node that lags behind. -/
def unhealthyCode : Int := -32005

/-- The code of a node that has not reached a slot. -/
def slotCode : Int := -32016

/-- How many slots a node lags behind, if it knows. -/
def readLag? (value : JsonValue) : Option Unit := do
  let parts ← value.record? ["numSlotsBehind"] 1
  let _ ← parts.optional? nat64? "numSlotsBehind"
  some ()

/-- The slot that a node has reached. -/
def readReached? (value : JsonValue) : Option Unit := do
  let parts ← value.record? ["contextSlot"] 1
  let _ ← parts.required? nat64? "contextSlot"
  some ()

/-- A message with data of some kind. -/
def readExplained? {α : Type} (read? : JsonValue → Option α) (fields : JsonRecord) :
    Option Unit := do
  let _ ← fields.required? string? "message"
  let _ ← fields.required? read? "data"
  some ()

/-- Whether an error with a code that is known is complete. -/
def isComplete (code : Int) (fields : JsonRecord) : Bool :=
  if code = preflightCode then (readExplained? readSimulated? fields).isSome
  else if code = unhealthyCode then (readExplained? readLag? fields).isSome
  else if code = slotCode then (readExplained? readReached? fields).isSome
  else wordlessCodes.contains code || (fields.required? string? "message").isSome

/-- Whether a code is known. -/
def isKnown (code : Int) : Bool :=
  (preflightCode :: unhealthyCode :: slotCode :: wordlessCodes ++ messageCodes).contains code

/-- A code: an integer of 64 bits with its sign. -/
def readCode? : JsonValue → Option Int
  | .integer code =>
      if -(wordLimit / 2 : Int) ≤ code ∧ code < (wordLimit / 2 : Int) then some code else none
  | _ => none

/-- The error that a value of a reply stands for.  Of the fields with one name the last one
counts. -/
def ofJson? (value : JsonValue) : Option NodeError :=
  match value.unrepeated with
  | .object fields => do
      let code ← JsonRecord.required? readCode? "code" fields
      if !isKnown code then some (other code)
      else if isComplete code fields then some (known code)
      else none
  | _ => none

end NodeError

end SolanaTransactions
