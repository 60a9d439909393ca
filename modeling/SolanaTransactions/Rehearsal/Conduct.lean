/-
Module: SolanaTransactions.Rehearsal.Conduct
Purpose: Signers that sign faithfully, badly or not at all.
Main exports: Conduct, Conduct.apply, Signer.withConduct
-/
import SolanaTransactions.Signing.Signer

namespace SolanaTransactions

/-- What a signer makes of the transactions that it is handed. -/
inductive Conduct where
  /-- It signs each of them. -/
  | faithful
  /-- It cannot be reached. -/
  | unreachable
  /-- It gives them back as they are. -/
  | idle
  /-- It signs something else in their place. -/
  | forging
  /-- It signs each of them, and loses the last one. -/
  | losing
  /-- It signs each of them, and gives the first one back twice. -/
  | repeating
  /-- It signs each of them, and gives them back in reverse order. -/
  | reversing
  /-- It signs each of them, and blanks the signatures of all other signers. -/
  | blanking
deriving DecidableEq, Inhabited, Repr

namespace Conduct

/-- What a forging signer signs. -/
def forgedMessage : Bytes := "not the message".toUTF8.data.toList

/-- Change the slots of a transaction, each together with its key. -/
def mapSlots (change : Key → Signature → Signature) (transaction : Transaction) : Transaction :=
  let slots := transaction.signatures
  let keys := transaction.keys
  transaction.withSignatures (List.zipWith change keys slots ++ slots.drop keys.length)

/-- Sign something else in the slots of a keypair. -/
def forge (scheme : SignatureScheme) (keypair : Keypair) : Transaction → Transaction :=
  mapSlots fun key signature =>
    if key = keypair.key then scheme.sign keypair.seed forgedMessage else signature

/-- Blank the slots of all keys but one. -/
def blank (own : Key) : Transaction → Transaction :=
  mapSlots fun key signature => if key = own then signature else Signature.blank

/-- What a signer makes of transactions, when a keypair signs for it. -/
def apply (scheme : SignatureScheme) (keypair : Keypair) (conduct : Conduct)
    (transactions : List Transaction) : Except Fault (List Transaction) :=
  let signed := Signer.signEach scheme keypair transactions
  match conduct with
  | faithful => signed
  | unreachable => .error .connection
  | idle => .ok transactions
  | forging => .ok (transactions.map (forge scheme keypair))
  | losing => signed.map List.dropLast
  | repeating => signed.map fun list => list ++ list.take 1
  | reversing => signed.map List.reverse
  | blanking => signed.map fun list => list.map (blank keypair.key)

end Conduct

/-- A signer that behaves in some way. -/
def Signer.withConduct {ε : Type} (scheme : SignatureScheme) (keypair : Keypair)
    (conduct : Conduct) (signer : Signer ε) : Signer ε :=
  { signer with
    respond := fun transactions environment =>
      (conduct.apply scheme keypair transactions, environment) }

/-- A signer that has to be reached and for which a keypair signs. -/
def Signer.remoteOf {ε : Type} (scheme : SignatureScheme) (name : String) (key : Key)
    (keypair : Keypair) (signsMessages : Bool) : Signer ε :=
  Signer.ofCallback name key
    (fun transactions environment => (Signer.signEach scheme keypair transactions, environment))
    (if signsMessages then
      some fun message environment => (.ok (scheme.sign keypair.seed message), environment)
    else none)

end SolanaTransactions
