/-
Module: SolanaTransactions.Rpc.Connection
Purpose: The questions that a client asks a node over JSON-RPC.
Main exports:
  Connection, Connection.latestBlockhash, Connection.blockHeight, Connection.slot,
  Connection.accountData, Connection.send, Connection.statuses, Connection.confirm,
  Connection.simulate, Connection.prioritizationFees
-/
import SolanaTransactions.Rpc.Exchange

namespace SolanaTransactions

/-- How a client reaches a node, and the defaults of what it asks and sends. -/
structure Connection where
  endpoint : String
  commitment : Commitment
  options : SendOptions
deriving DecidableEq, Inhabited, Repr

namespace Connection

/-- The connection to an endpoint.  Checks before a send use its commitment unless the options say
otherwise. -/
def toEndpoint (endpoint : String) (commitment : Commitment) (options : Option SendOptions) :
    Connection :=
  ⟨endpoint, commitment,
    options.getD { SendOptions.standard with preflightCommitment := commitment }⟩

/-- How long the answer to a question for fees is awaited, in seconds. -/
def feePatience : Rat := 20

/-- How many seconds pass between two questions for a status. -/
def statusInterval : Rat := 1 / 2

/-- The depth that the first given word means; without any it is the deepest one. -/
def depthOf (words : List Commitment) : Rpc Depth :=
  match words.find? (· != "") with
  | none => pure .finalized
  | some word => Rpc.ofOption (.unknownCommitment word) (Depth.ofWord? word)

/-- The depth for a question: the given one, else the one of the connection. -/
def depth (connection : Connection) (commitment : Option Commitment) : Rpc Depth :=
  depthOf (commitment.toList ++ [connection.commitment])

/-- The parameters of a question that needs nothing but a depth. -/
def depthParameters (depth : Depth) : JsonValue :=
  .array [.object [("commitment", .string depth.word), ("minContextSlot", .null)]]

/-- Ask for the latest blockhash. -/
def latestBlockhash (connection : Connection) (commitment : Option Commitment) :
    Rpc RecentBlockhash := do
  let depth ← connection.depth commitment
  let (_, blockhash) ←
    Rpc.call (readContext? readBlockhash?) ⟨"getLatestBlockhash", depthParameters depth⟩
  return blockhash

/-- Ask for the height of the latest block. -/
def blockHeight (connection : Connection) (commitment : Option Commitment) : Rpc Nat := do
  let depth ← connection.depth commitment
  Rpc.call JsonValue.nat64? ⟨"getBlockHeight", depthParameters depth⟩

/-- Ask for the slot. -/
def slot (connection : Connection) (commitment : Option Commitment) : Rpc Nat := do
  let depth ← connection.depth commitment
  Rpc.call JsonValue.nat64? ⟨"getSlot", depthParameters depth⟩

/-- Ask for the data of an account, always as of the deepest block. -/
def accountData (_ : Connection) (account : Key) : Rpc (Option Bytes) := do
  let parameters : JsonValue :=
    .array [.string account.text,
      .object [("encoding", .string "base64"), ("dataSlice", .null),
        ("commitment", .string Depth.finalized.word), ("minContextSlot", .null)]]
  let read? := readContext? (JsonValue.orNull? readAccount?)
  let (_, data) ← Rpc.call read? ⟨"getAccountInfo", parameters⟩
  return data

/-- A count of retries that a node understands. -/
def retryCount : Option Int → Rpc JsonValue
  | none => pure .null
  | some count =>
      if 0 ≤ count ∧ count < wordLimit then pure (.integer count)
      else throw (.retriesOutOfRange count)

/-- Send a transaction. -/
def send (connection : Connection) (raw : Bytes) (options : Option SendOptions) :
    Rpc Signature := do
  let options := options.getD connection.options
  let depth ← depthOf [options.preflightCommitment]
  let retries ← retryCount options.maxRetries
  let parameters : JsonValue :=
    .array [.string (Base64.encode raw),
      .object [("skipPreflight", .bool options.skipPreflight),
        ("preflightCommitment", .string depth.word), ("encoding", .string "base64"),
        ("maxRetries", retries), ("minContextSlot", .null)]]
  Rpc.callFor "send" readSignature? ⟨"sendTransaction", parameters⟩

/-- Ask what the node knows of signatures, together with its slot. -/
def statusesInContext (signatures : List Signature) : Rpc (Nat × List (Option SignatureStatus)) :=
  let parameters : JsonValue :=
    .array [.array (signatures.map fun signature => .string signature.text),
      .object [("searchTransactionHistory", .bool false)]]
  Rpc.call (readContext? readStatuses?) ⟨"getSignatureStatuses", parameters⟩

/-- Ask what the node knows of signatures. -/
def statuses (_ : Connection) (signatures : List Signature) :
    Rpc (List (Option SignatureStatus)) := do
  let (_, found) ← statusesInContext signatures
  return found

/-- Whether a status reaches a depth. -/
def reaches (depth : Depth) (status : Option SignatureStatus) : Bool :=
  match status.bind (·.depth) with
  | some reached => depth.rank ≤ reached.rank
  | none => false

/-- Ask for the status of one signature: the slot of the node and what it knows. -/
def statusOf (signature : Signature) : Rpc (Nat × Option SignatureStatus) := do
  match ← statusesInContext [signature] with
  | (slot, status :: _) => return (slot, status)
  | (_, []) => throw .positionOutOfRange

/-- Ask for a status until it reaches a depth, with `patience` questions at most. -/
def awaitStatus (depth : Depth) (signature : Signature) :
    Nat → Rpc (Nat × Option SignatureStatus)
  | 0 => throw .timeout
  | patience + 1 => do
      let (slot, status) ← statusOf signature
      if reaches depth status then return (slot, status)
      else do
        Rpc.sleep statusInterval
        awaitStatus depth signature patience

/-- Ask for a status until it reaches a depth or a block height is passed, with `patience` questions
at most. -/
def awaitStatusWithin (connection : Connection) (depth : Depth) (signature : Signature)
    (lastHeight : Int) : Nat → Nat → Rpc (Nat × Option SignatureStatus)
  | 0, _ => throw .timeout
  | patience + 1, height =>
      if (height : Int) ≤ lastHeight then do
        let (slot, status) ← statusOf signature
        if reaches depth status then return (slot, status)
        else do
          let next ← connection.blockHeight (some depth.word)
          Rpc.sleep statusInterval
          awaitStatusWithin connection depth signature lastHeight patience next
      else throw .expired

/-- Await the confirmation of a transaction: the slot of the node and the error of the transaction.
A last height of zero stands for none.  Every question uses up an answer, so there are no more
questions than answers. -/
def confirm (connection : Connection) (signature : Signature) (lastHeight : Int)
    (commitment : Option Commitment) : Rpc (Nat × Option TransactionError) := do
  if lastHeight < 0 ∨ wordLimit ≤ lastHeight then throw (.heightOutOfRange lastHeight)
  let depth ← connection.depth commitment
  let patience := (← getThe Exchange).replies.length + 1
  let (slot, status) ←
    if lastHeight = 0 then awaitStatus depth signature patience
    else do
      let height ← connection.blockHeight (some depth.word)
      awaitStatusWithin connection depth signature lastHeight patience height
  return (slot, status.bind (·.error))

/-- Ask how a transaction would run: its error and its compute units. -/
def simulate (_ : Connection) (transaction : Transaction) :
    Rpc (Option TransactionError × Option Nat) := do
  if transaction.isVersioned then
    let parameters : JsonValue :=
      .array [.string (Base64.encode transaction.toBytes),
        .object [("sigVerify", .bool false), ("replaceRecentBlockhash", .bool true),
          ("encoding", .string "base64"), ("accounts", .null), ("minContextSlot", .null),
          ("innerInstructions", .bool false)]]
    let (_, outcome) ←
      Rpc.callFor "simulate" (readContext? readSimulated?) ⟨"simulateTransaction", parameters⟩
    return outcome
  else throw .notVersioned

/-- The text of a body without the mark of its byte order. -/
def unmarked (body : String) : List Char :=
  match body.toList with
  | '\uFEFF' :: rest => rest
  | characters => characters

/-- A field that an answer to a question for fees needs. -/
def feeField (name : String) (fields : List (String × JsonValue)) : Except RpcFault JsonValue :=
  match fields.lookup name with
  | some value => .ok value
  | none => .error (.missingField name)

/-- The result in an answer to a question for fees.  An answer with a result is good even beside an
error, and an answer without one has to hold a complete error. -/
def feeResult : JsonValue → Except RpcFault JsonValue
  | .array _ => .error .feesNotOk
  | .object fields =>
      match fields.lookup "result" with
      | some result => do
          let _ ← feeField "id" fields
          return result
      | none => do
          match ← feeField "error" fields with
          | .object parts => do
              let _ ← feeField "code" parts
              let message ← feeField "message" parts
              let _ ← feeField "id" fields
              .error (.feesRefused message.displayed)
          | _ => .error .noFields
  | _ => .error .noFields

/-- Ask for the fees that were paid lately by transactions that write to some accounts.  The status
of the reply does not count. -/
def prioritizationFees (_ : Connection) (accounts : List Key) : Rpc JsonValue := do
  let parameters : JsonValue := .array [.array (accounts.map fun account => .string account.text)]
  match ← Rpc.post ⟨"getRecentPrioritizationFees", parameters⟩ with
  | .foreign _ => throw .noAnswer
  | .http _ seconds body =>
      if feePatience < seconds then do
        Rpc.sleep feePatience
        throw .timeout
      else do
        Rpc.sleep seconds
        match JsonValue.read .lenient (unmarked body) with
        | .error fault => throw (.noJson fault)
        | .ok value =>
            match feeResult value with
            | .ok result => return result
            | .error fault => throw fault

end Connection

end SolanaTransactions
