/-
Module: SolanaTransactions.Message.Accounts
Purpose: The accounts of a compiled message with the roles that the message gives them.
Main exports: AccountLabel, ListedAccount, Message.accounts
-/
import SolanaTransactions.Fault

namespace SolanaTransactions

/-!
The instructions of a message number its accounts: first the stored keys, then
the writable accounts of all lookups and at last the read-only ones.  An account
behind a lookup is known by its key when the table is at hand and by its place
in the table otherwise.
-/

/-- How an account of a message is known. -/
inductive AccountLabel where
  | key (account : Key)
  | place (table : Key) (index : UInt8)
deriving DecidableEq, Inhabited, Repr

/-- The text of a label. -/
def AccountLabel.text : AccountLabel → String
  | .key account => account.text
  | .place table index => table.text ++ "[" ++ toString index.toNat ++ "]"

/-- An account of a message and its roles there. -/
structure ListedAccount where
  label : AccountLabel
  signer : Bool
  writable : Bool
deriving DecidableEq, Inhabited, Repr

namespace Message

/-- The role of the stored key at a position, as the counts of the header tell it. -/
def storedAccount (body : MessageBody) (position : Nat) (key : Key) : ListedAccount :=
  let signers : Int := body.header.requiredSignatures.toNat
  let writableSigners := signers - body.header.readonlySigned.toNat
  let writableEnd : Int := body.keys.length - (body.header.readonlyUnsigned.toNat : Int)
  let place : Int := position
  { label := .key key
    signer := place < signers
    writable := place < writableSigners || (signers ≤ place && place < writableEnd) }

/-- How the account at an index of a looked-up table is known.  Of several tables with the key of
the lookup the last one is read. -/
def lookupLabel (tables : List LookupTable) (table : Key) (index : UInt8) :
    Except Fault AccountLabel :=
  match tables.reverse.find? fun candidate => candidate.key == table with
  | none => .ok (.place table index)
  | some found =>
      match found.addresses[index.toNat]? with
      | some key => .ok (.key key)
      | none => .error .positionOutOfRange

/-- The accounts behind some indexes of each lookup. -/
def loadedAccounts (tables : List LookupTable) (indexes : TableLookup → Bytes) (writable : Bool)
    (lookups : List TableLookup) : Except Fault (List ListedAccount) :=
  (lookups.flatMap fun lookup => (indexes lookup).map fun index => (lookup.table, index)).mapM
    fun (table, index) =>
      (lookupLabel tables table index).map fun label => ⟨label, false, writable⟩

/-- The accounts of a message in the order in which its instructions number them. -/
def accounts (message : Message) (tables : List LookupTable) :
    Except Fault (List ListedAccount) := do
  let stored := message.body.keys.mapIdx (storedAccount message.body)
  let writable ← loadedAccounts tables (·.writable) true message.lookups
  let readonly ← loadedAccounts tables (·.readonly) false message.lookups
  return stored ++ writable ++ readonly

end Message

end SolanaTransactions
