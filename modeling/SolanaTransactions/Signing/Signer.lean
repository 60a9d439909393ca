/-
Module: SolanaTransactions.Signing.Signer
Purpose: Signers, near and far, and the producers of instructions that they pay for.
Main exports: Signer, Signer.ofKeypair, Signer.ofCallback, Signer.signAll, Producer
-/
import SolanaTransactions.Client
import SolanaTransactions.Instruction

namespace SolanaTransactions

/-!
A signer may be a keypair in this process or something that has to be reached: a
wallet, a service, a person.  A signer of the second kind is remote.  What a
signer gives back is not trusted; the coordinator checks it.
-/

/-- What a signer is made of. -/
inductive Holder where
  | keypair
  | wallet
  | callback
deriving DecidableEq, Inhabited, Repr

/-- A signing identity over an environment. -/
structure Signer (ε : Type) where
  /-- The name under which a trace tells the signer from others. -/
  name : String
  key : Key
  /-- Whether the signer has to be reached outside this process. -/
  remote : Bool
  holder : Holder
  /-- What the signer makes of a list of transactions. -/
  respond : List Transaction → ε → Except Fault (List Transaction) × ε
  /-- What the signer makes of a plain message, when it signs such messages at all. -/
  respondMessage : Option (Bytes → ε → Except Fault Signature × ε)

namespace Signer

variable {ε : Type}

/-- What a keypair makes of a list of transactions: it signs each of them, or fails at the first
that it cannot sign. -/
def signEach (scheme : SignatureScheme) (keypair : Keypair) (transactions : List Transaction) :
    Except Fault (List Transaction) :=
  transactions.mapM (Transaction.sign scheme keypair)

/-- A keypair as a signer in this process. -/
def ofKeypair (scheme : SignatureScheme) (name : String) (keypair : Keypair) : Signer ε :=
  { name := name
    key := keypair.key
    remote := false
    holder := .keypair
    respond := fun transactions environment =>
      (signEach scheme keypair transactions, environment)
    respondMessage := some fun message environment =>
      (.ok (scheme.sign keypair.seed message), environment) }

/-- A wallet as a signer: the keypair in it signs. -/
def ofWallet (scheme : SignatureScheme) (name : String) (keypair : Keypair) : Signer ε :=
  { ofKeypair scheme name keypair with holder := .wallet }

/-- A signer that has to be reached. -/
def ofCallback (name : String) (key : Key)
    (respond : List Transaction → ε → Except Fault (List Transaction) × ε)
    (respondMessage : Option (Bytes → ε → Except Fault Signature × ε)) : Signer ε :=
  { name := name
    key := key
    remote := true
    holder := .callback
    respond := respond
    respondMessage := respondMessage }

/-- Ask a signer to sign transactions. -/
def signAll (signer : Signer ε) (transactions : List Transaction) :
    Client ε (List Transaction) := do
  Client.record (.signing signer.name signer.key transactions)
  Client.ask (signer.respond transactions)

/-- Ask a signer to sign one transaction. -/
def sign (signer : Signer ε) (transaction : Transaction) : Client ε Transaction := do
  match ← signer.signAll [transaction] with
  | [] => throw .positionOutOfRange
  | first :: _ => return first

/-- Ask a signer to sign a plain message. -/
def signMessage (signer : Signer ε) (message : Bytes) : Client ε Signature :=
  match signer.respondMessage with
  | none => throw (.messageSigningUnsupported signer.key)
  | some respond => Client.ask (respond message)

end Signer

/-- Something that makes instructions once it knows who pays for them. -/
abbrev Producer (ε : Type) := Signer ε → Client ε (List (Authorized (Signer ε)))

namespace Producer

variable {ε : Type}

/-- The producer of an instruction whose signers are known. -/
def ofAuthorized (instruction : Authorized (Signer ε)) : Producer ε := fun _ => pure [instruction]

/-- The producer of an instruction without signers. -/
def ofInstruction (instruction : Instruction) : Producer ε := ofAuthorized ⟨instruction, []⟩

/-- Run producers side by side for a funder, and join what they make in order. -/
def resolve (producers : List (Producer ε)) (funder : Signer ε) :
    Client ε (List (Authorized (Signer ε))) := do
  let made ← Client.gather (producers.map fun producer => producer funder)
  return made.flatten

end Producer

end SolanaTransactions
