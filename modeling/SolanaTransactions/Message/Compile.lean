/-
Module: SolanaTransactions.Message.Compile
Purpose: Compiling instructions into a message.
Main exports:
  Draft, Draft.signs, Draft.writes, Draft.invokes, CompileError, Draft.compile,
  Draft.compileLegacy
-/
import SolanaTransactions.Instruction
import SolanaTransactions.KeySet
import SolanaTransactions.LookupTable
import SolanaTransactions.Message

namespace SolanaTransactions

/-!
A key signs, or is writable, when any use of it in any instruction says so; the
payer does both.  A key that neither signs nor is called as a program may be
loaded through a lookup table, and the first table that holds it loads it.  All
keys of one role stand in ascending order, so a message depends only on the
roles of its keys and not on the order of their uses.
-/

/-- Instructions and the account that pays for them, before compilation. -/
structure Draft where
  payer : Key
  instructions : List Instruction
deriving DecidableEq, Inhabited, Repr

/-- Why a draft has no message. -/
inductive CompileError where
  /-- A position among the accounts does not fit in a byte. -/
  | tooManyAccounts
  /-- An account stands too late in its lookup table for an index of one byte. -/
  | tableIndexTooLarge
deriving DecidableEq, Inhabited, Repr

/-- The accounts that one lookup table loads into a message. -/
structure LoadedTable where
  lookup : TableLookup
  writable : List Key
  readonly : List Key
deriving DecidableEq, Inhabited, Repr

namespace Draft

/-- Whether some use of a key satisfies a test. -/
def uses (draft : Draft) (test : AccountMeta → Bool) (key : Key) : Bool :=
  draft.instructions.any fun instruction =>
    instruction.accounts.any fun account => account.key == key && test account

/-- Whether a key has to sign. -/
def signs (draft : Draft) (key : Key) : Bool :=
  key == draft.payer || draft.uses (·.signer) key

/-- Whether a key may be written to. -/
def writes (draft : Draft) (key : Key) : Bool :=
  key == draft.payer || draft.uses (·.writable) key

/-- Whether a key is called as a program. -/
def invokes (draft : Draft) (key : Key) : Bool :=
  draft.instructions.any fun instruction => instruction.program == key

/-- Every key that a draft mentions. -/
def keys (draft : Draft) : KeySet :=
  KeySet.ofList (draft.payer :: draft.instructions.flatMap fun instruction =>
    instruction.program :: instruction.accounts.map (·.key))

/-- Whether a key may be loaded through a lookup table. -/
def mayLoad (draft : Draft) (key : Key) : Bool := !draft.signs key && !draft.invokes key

/-- Whether a lookup table loads a key. -/
def loadsFrom (draft : Draft) (table : LookupTable) (key : Key) : Bool :=
  draft.mayLoad key && table.addresses.contains key

end Draft

/-- The index of an address in a table, as one byte. -/
def LookupTable.indexOf (table : LookupTable) (address : Key) : Except CompileError UInt8 :=
  let index := table.addresses.idxOf address
  if index < 256 then .ok (UInt8.ofNat index) else .error .tableIndexTooLarge

namespace Draft

/-- What one table loads from a list of keys. -/
def loadTable (draft : Draft) (table : LookupTable) (keys : List Key) :
    Except CompileError LoadedTable := do
  let found := keys.filter (draft.loadsFrom table)
  let writable := found.filter draft.writes
  let readonly := found.filter fun key => !draft.writes key
  let writableIndexes ← writable.mapM table.indexOf
  let readonlyIndexes ← readonly.mapM table.indexOf
  return ⟨⟨table.key, writableIndexes, readonlyIndexes⟩, writable, readonly⟩

/-- What the tables load from a list of keys, one table after the other, and the keys that are
left.  A table that loads nothing is not listed. -/
def loadTables (draft : Draft) : List LookupTable → List Key →
    Except CompileError (List LoadedTable × List Key)
  | [], keys => .ok ([], keys)
  | table :: tables, keys => do
      let loaded ← draft.loadTable table keys
      let (later, left) ←
        draft.loadTables tables (keys.filter fun key => !draft.loadsFrom table key)
      if loaded.writable.isEmpty && loaded.readonly.isEmpty then
        return (later, left)
      else
        return (loaded :: later, left)

/-- The stored keys other than the payer that have given roles. -/
def withRole (draft : Draft) (keys : List Key) (signer writable : Bool) : List Key :=
  keys.filter fun key =>
    key != draft.payer && draft.signs key == signer && draft.writes key == writable

/-- The stored keys in the order of a message. -/
def storedOrder (draft : Draft) (keys : List Key) : List Key :=
  draft.payer :: draft.withRole keys true true ++ draft.withRole keys true false ++
    draft.withRole keys false true ++ draft.withRole keys false false

/-- An instruction with the positions of its program and accounts. -/
def compileInstruction (order : List Key) (instruction : Instruction) : CompiledInstruction :=
  { program := UInt8.ofNat (order.idxOf instruction.program)
    accounts := instruction.accounts.map fun account => UInt8.ofNat (order.idxOf account.key)
    data := instruction.data }

/-- The body of a message over stored and loaded keys. -/
def compileBody (draft : Draft) (blockhash : Blockhash) (stored loaded : List Key) :
    Except CompileError MessageBody :=
  let readonlySigners := draft.withRole stored true false
  let signers := 1 + (draft.withRole stored true true).length + readonlySigners.length
  let readonlyOthers := draft.withRole stored false false
  let order := draft.storedOrder stored
  if signers > 255 ∨ readonlyOthers.length > 255 ∨ order.length + loaded.length > 256 then
    .error .tooManyAccounts
  else
    .ok
      { header := ⟨UInt8.ofNat signers, UInt8.ofNat readonlySigners.length,
          UInt8.ofNat readonlyOthers.length⟩
        keys := order
        blockhash := blockhash
        instructions := draft.instructions.map (compileInstruction (order ++ loaded)) }

/-- The message of version 0 that a draft compiles to with some lookup tables. -/
def compile (draft : Draft) (tables : List LookupTable) (blockhash : Blockhash) :
    Except CompileError Message := do
  let (loaded, stored) ← draft.loadTables tables draft.keys.toList
  let body ← draft.compileBody blockhash stored
    (loaded.flatMap (·.writable) ++ loaded.flatMap (·.readonly))
  return .v0 body (loaded.map (·.lookup))

/-- The legacy message that a draft compiles to. -/
def compileLegacy (draft : Draft) (blockhash : Blockhash) : Except CompileError Message := do
  let body ← draft.compileBody blockhash draft.keys.toList []
  return .legacy body

end Draft

end SolanaTransactions
