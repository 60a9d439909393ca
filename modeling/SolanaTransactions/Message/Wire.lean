/-
Module: SolanaTransactions.Message.Wire
Purpose: The serialized form of messages.
Main exports: Message.toBytes, MessageBody.toBytes, TableLookup.toBytes, CompiledInstruction.toBytes
-/
import SolanaTransactions.Message
import SolanaTransactions.Message.CompactCount

namespace SolanaTransactions

/-- A byte string behind its count. -/
def Bytes.counted (bytes : Bytes) : Bytes := CompactCount.encode bytes.length ++ bytes

/-- The serialized elements of a list behind their count. -/
def Bytes.countedList {α : Type} (toBytes : α → Bytes) (elements : List α) : Bytes :=
  CompactCount.encode elements.length ++ elements.flatMap toBytes

/-- The three counts of a header. -/
def Header.toBytes (header : Header) : Bytes :=
  [header.requiredSignatures, header.readonlySigned, header.readonlyUnsigned]

/-- The program, the accounts and the data of an instruction. -/
def CompiledInstruction.toBytes (instruction : CompiledInstruction) : Bytes :=
  instruction.program :: Bytes.counted instruction.accounts ++ Bytes.counted instruction.data

/-- The table of a lookup and the positions in it. -/
def TableLookup.toBytes (lookup : TableLookup) : Bytes :=
  lookup.table.toBytes ++ Bytes.counted lookup.writable ++ Bytes.counted lookup.readonly

/-- The part of a message that both versions write in the same way. -/
def MessageBody.toBytes (body : MessageBody) : Bytes :=
  body.header.toBytes ++ Bytes.countedList Key.toBytes body.keys ++ body.blockhash.toBytes ++
    Bytes.countedList CompiledInstruction.toBytes body.instructions

/-- The serialized form of a message, which its signatures sign.  A message of version 0 starts
with the byte 128, which no legacy message can start with, and ends with its lookups. -/
def Message.toBytes : Message → Bytes
  | .legacy body => body.toBytes
  | .v0 body lookups => 128 :: body.toBytes ++ Bytes.countedList TableLookup.toBytes lookups

end SolanaTransactions
