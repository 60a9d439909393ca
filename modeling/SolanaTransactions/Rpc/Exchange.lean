/-
Module: SolanaTransactions.Rpc.Exchange
Purpose: Asking a node over JSON-RPC: requests, replies and what can go wrong with them.
Main exports:
  RpcRequest, Reply, RpcFault, RpcFault.message?, Exchange, Rpc, Rpc.post, Rpc.call, Rpc.callFor
-/
import SolanaTransactions.Rpc.NodeError
import SolanaTransactions.Text.Json.Reader
import SolanaTransactions.Time

namespace SolanaTransactions

/-!
An exchange is the record of what was asked and the list of what will be
answered.  Every request is recorded before its answer is looked at, so a request
that fails is recorded too.
-/

/-- A method of the node and its parameters. -/
structure RpcRequest where
  method : String
  parameters : JsonValue
deriving Inhabited, Repr

/-- An answer to a request. -/
inductive Reply where
  /-- A reply over HTTP, after some seconds. -/
  | http (status : Nat) (seconds : Rat) (body : String)
  /-- Something else that the transport hands over in place of a reply. -/
  | foreign (content : JsonValue)
deriving Inhabited, Repr

/-- Why a request gives no result. -/
inductive RpcFault where
  /-- No node understands this commitment. -/
  | unknownCommitment (word : String)
  /-- A count of retries is negative or does not fit in 64 bits. -/
  | retriesOutOfRange (count : Int)
  /-- A block height is negative or does not fit in 64 bits. -/
  | heightOutOfRange (height : Int)
  /-- Only versioned transactions can be simulated. -/
  | notVersioned
  /-- There is no answer. -/
  | noAnswer
  /-- The answer did not come in time. -/
  | timeout
  /-- The status of the reply tells of a failure. -/
  | httpStatus (status : Nat)
  /-- The node answers with an error. -/
  | refused
  /-- The reply holds neither an error nor a result of the kind that was asked for. -/
  | unreadable
  /-- There is something else than a result or an error with a known code. -/
  | foreignReply
  /-- There is something else than the outcome of this operation or an error with a known code. -/
  | unexpected (operation : String) (shown : String)
  /-- The reply is no JSON. -/
  | noJson (fault : JsonFault)
  /-- A field of the reply is missing. -/
  | missingField (name : String)
  /-- A part of the reply has no fields. -/
  | noFields
  /-- The node answers the question for fees with an error. -/
  | feesRefused (shown : String)
  /-- The question for fees is answered with a list of replies. -/
  | feesNotOk
  /-- A list of results is empty. -/
  | positionOutOfRange
  /-- The last block height of a transaction is passed. -/
  | expired
deriving DecidableEq, Inhabited, Repr

/-- The text of a fault, for the faults that this library words itself. -/
def RpcFault.message? : RpcFault → Option String
  | unexpected operation shown =>
      some ("Unexpected response from " ++ operation ++ " transaction: " ++ shown)
  | feesRefused shown => some ("Error fetching priority fees: " ++ shown)
  | feesNotOk => some "Error fetching priority fees - not ok"
  | _ => none

/-- The state of an exchange with a node. -/
structure Exchange where
  /-- The answers that are still to come. -/
  replies : List Reply
  /-- The requests that were made, in order. -/
  requests : List RpcRequest
  /-- The time in seconds. -/
  now : Rat
deriving Inhabited

/-- The exchange in which some answers are to come. -/
def Exchange.start (replies : List Reply) : Exchange := ⟨replies, [], 0⟩

/-- An operation over an exchange. -/
abbrev Rpc (α : Type) := ExceptT RpcFault (StateM Exchange) α

namespace Rpc

/-- A value of an optional result, or a fault in its place. -/
def ofOption {α : Type} (fault : RpcFault) : Option α → Rpc α
  | some value => pure value
  | none => throw fault

/-- Let some seconds pass. -/
def sleep (seconds : Rat) : Rpc Unit :=
  modify fun exchange => { exchange with now := exchange.now + elapsed seconds }

/-- Make a request and take the next answer. -/
def post (request : RpcRequest) : Rpc Reply := do
  let exchange ← getThe Exchange
  set ({ exchange with
    requests := exchange.requests ++ [request]
    replies := exchange.replies.tail } : Exchange)
  ofOption .noAnswer exchange.replies.head?

/-- Whether a status tells of success. -/
def succeeds (status : Nat) : Bool := 200 ≤ status && status < 300

/-- The field of an object under a name that stands there once. -/
def single (name : String) (fields : List (String × JsonValue)) : Option JsonValue :=
  match fields.filter (·.1 == name) with
  | [(_, value)] => some value
  | _ => none

/-- The result in a reply.  An error counts only when there is no result of the right kind; the code
of an error is given back when it is not known. -/
def result {α : Type} (read? : JsonValue → Option α) :
    JsonValue → Except RpcFault (Except JsonValue α)
  | .object fields =>
      match (single "result" fields).bind read? with
      | some value => .ok (.ok value)
      | none =>
          match (single "error" fields).bind NodeError.ofJson? with
          | some (.known _) => .error .refused
          | some (.other code) => .ok (.error (.integer code))
          | none => .error .unreadable
  | _ => .error .unreadable

/-- Make a request and read its result.  What is neither a result nor a fault is given back as it
is. -/
def callTyped {α : Type} (read? : JsonValue → Option α) (request : RpcRequest) :
    Rpc (Except JsonValue α) := do
  match ← post request with
  | .foreign content => return .error content
  | .http status seconds body =>
      sleep seconds
      if succeeds status then
        match JsonValue.read .strict body.toList with
        | .ok value =>
            match result read? value with
            | .ok found => return found
            | .error fault => throw fault
        | .error _ => throw .unreadable
      else throw (.httpStatus status)

/-- Make a request and read its result. -/
def call {α : Type} (read? : JsonValue → Option α) (request : RpcRequest) : Rpc α := do
  match ← callTyped read? request with
  | .ok found => return found
  | .error _ => throw .foreignReply

/-- Make a request and read the outcome of an operation on a transaction. -/
def callFor {α : Type} (operation : String) (read? : JsonValue → Option α)
    (request : RpcRequest) : Rpc α := do
  match ← callTyped read? request with
  | .ok found => return found
  | .error content => throw (.unexpected operation content.displayed)

end Rpc

end SolanaTransactions
