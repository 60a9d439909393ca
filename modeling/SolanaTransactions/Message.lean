/-
Module: SolanaTransactions.Message
Purpose: Compiled messages of both versions.
Main exports: Header, CompiledInstruction, TableLookup, MessageBody, Message
-/
import SolanaTransactions.Key

namespace SolanaTransactions

/-!
A message names every account once and refers to it by position.  The header
tells the roles of the stored keys by three counts: first come the signers,
their read-only ones last, then the other keys, again with the read-only ones
last.  A message of version 0 may load further accounts through lookup tables;
a legacy message cannot.
-/

/-- How many of the stored keys sign, and how many of each half are read-only. -/
structure Header where
  requiredSignatures : UInt8
  readonlySigned : UInt8
  readonlyUnsigned : UInt8
deriving DecidableEq, Inhabited, Repr

/-- An instruction whose program and accounts are positions in the message. -/
structure CompiledInstruction where
  program : UInt8
  accounts : Bytes
  data : Bytes
deriving DecidableEq, Inhabited, Repr

/-- The positions that a message loads from one lookup table. -/
structure TableLookup where
  table : Key
  writable : Bytes
  readonly : Bytes
deriving DecidableEq, Inhabited, Repr

/-- What messages of both versions hold. -/
structure MessageBody where
  header : Header
  /-- The keys that are stored in full. -/
  keys : List Key
  blockhash : Blockhash
  instructions : List CompiledInstruction
deriving DecidableEq, Inhabited, Repr

/-- A compiled message. -/
inductive Message where
  | legacy (body : MessageBody)
  | v0 (body : MessageBody) (lookups : List TableLookup)
deriving DecidableEq, Inhabited, Repr

namespace Message

/-- What a message holds apart from its version and its lookups. -/
def body : Message → MessageBody
  | legacy body => body
  | v0 body _ => body

/-- The lookups of a message; a legacy message has none. -/
def lookups : Message → List TableLookup
  | legacy _ => []
  | v0 _ lookups => lookups

/-- How many signatures the header of a message asks for. -/
def requiredSignatures (message : Message) : Nat := message.body.header.requiredSignatures.toNat

/-- The stored keys that have to sign. -/
def signerKeys (message : Message) : List Key :=
  message.body.keys.take message.requiredSignatures

end Message

end SolanaTransactions
