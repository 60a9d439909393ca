/-
Module: SolanaTransactions.Rpc.Simulated
Purpose: The outcome of a simulated transaction in a reply.
Main exports: readSimulated?
-/
import SolanaTransactions.Rpc.Account
import SolanaTransactions.Rpc.Results

namespace SolanaTransactions

/-!
A client needs the error and the compute units of a simulation.  A reply tells more,
and it counts only when all of it can be read: logs, accounts, returned data, inner
instructions and the blockhash that was put in.
-/

open JsonValue

/-- The encoding of returned data. -/
def readReturnEncoding? (value : JsonValue) : Option Unit := do
  if (← value.plainAlternative?) = "base64" then some () else none

/-- Data that a program returned, and the program. -/
def readReturned? (value : JsonValue) : Option Unit := do
  let parts ← value.record? ["programId", "data"] 2
  let _ ← parts.required? readKey? "programId"
  let (text, _) ← parts.required? (pair? string? readReturnEncoding?) "data"
  let _ ← Base64.decode? text
  some ()

/-- An instruction in compiled form. -/
def readCompiled? (value : JsonValue) : Option Unit := do
  let names := ["programIdIndex", "accounts", "data", "stackHeight"]
  let parts ← value.record? names names.length
  let _ ← parts.required? nat8? "programIdIndex"
  let _ ← parts.required? (list? nat8?) "accounts"
  let _ ← parts.required? string? "data"
  let _ ← parts.optional? nat32? "stackHeight"
  some ()

/-- An instruction that the node could interpret. -/
def readInterpreted? (value : JsonValue) : Option Unit := do
  let names := ["program", "programId", "parsed", "stackHeight"]
  let parts ← value.record? names names.length
  let _ ← parts.required? string? "program"
  let _ ← parts.required? string? "programId"
  let _ ← parts.required? some "parsed"
  let _ ← parts.optional? nat32? "stackHeight"
  some ()

/-- An instruction of which the node only knows the accounts. -/
def readResolved? (value : JsonValue) : Option Unit := do
  let names := ["programId", "accounts", "data", "stackHeight"]
  let parts ← value.record? names names.length
  let _ ← parts.required? string? "programId"
  let _ ← parts.required? (list? string?) "accounts"
  let _ ← parts.required? string? "data"
  let _ ← parts.optional? nat32? "stackHeight"
  some ()

/-- An instruction in one of its three forms. -/
def readInner? (value : JsonValue) : Option Unit :=
  [readCompiled?, readInterpreted?, readResolved?].findSome? fun read? => read? value

/-- The instructions that ran inside one instruction. -/
def readInnerList? (value : JsonValue) : Option Unit := do
  let parts ← value.record? ["index", "instructions"] 2
  let _ ← parts.required? nat8? "index"
  let _ ← parts.required? (list? readInner?) "instructions"
  some ()

/-- The error and the compute units of a simulated transaction. -/
def readSimulated? (value : JsonValue) : Option (Option TransactionError × Option Nat) := do
  let names := ["err", "logs", "accounts", "unitsConsumed", "returnData", "innerInstructions",
    "replacementBlockhash"]
  let parts ← value.record? names names.length
  let error ← parts.optional? TransactionError.ofJson? "err"
  let _ ← parts.optional? (list? string?) "logs"
  let _ ← parts.optional? (list? (orNull? readAccount?)) "accounts"
  let units ← parts.optional? nat64? "unitsConsumed"
  let _ ← parts.optional? readReturned? "returnData"
  let _ ← parts.optional? (list? readInnerList?) "innerInstructions"
  let _ ← parts.optional? readBlockhash? "replacementBlockhash"
  some (error, units)

end SolanaTransactions
