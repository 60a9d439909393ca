/-
Module: SolanaTransactions.LookupTable.Program
Purpose: The instructions that create and extend lookup tables.
Main exports:
  LookupTable.program, LookupTable.deriveAddress, LookupTable.createInstruction,
  LookupTable.extendInstruction
-/
import SolanaTransactions.Fault
import SolanaTransactions.Limits
import SolanaTransactions.ProgramAddress
import SolanaTransactions.SystemProgram

namespace SolanaTransactions.LookupTable

/-- The lookup table program, `AddressLookupTab1e1111111111111111111111111`. -/
def program : Key :=
  Key.ofNat 0x0277a6af97339b7ac88d1892c90446f50002309266f62e53c118244982000000

/-- The address of the table that an authority creates at a slot, and its bump byte. -/
def deriveAddress (authority : Key) (slot : Int) : Except Fault (Key × UInt8) :=
  if slot < 0 ∨ wordLimit ≤ slot then .error (.slotOutOfRange slot)
  else
    match ProgramAddress.find?
        (authority.toBytes ++ Bytes.littleEndian 8 slot.toNat) program with
    | some found => .ok found
    | none => .error .noProgramAddress

/-- The instruction that creates the table of an authority at a slot, and the table's address. -/
def createInstruction (authority payer : Key) (slot : Int) : Except Fault (Instruction × Key) := do
  let (table, bump) ← deriveAddress authority slot
  let data := Bytes.littleEndian 4 0 ++ Bytes.littleEndian 8 slot.toNat ++ [bump]
  let accounts :=
    [⟨table, false, true⟩, ⟨authority, true, false⟩, ⟨payer, true, true⟩,
      ⟨SystemProgram.program, false, false⟩]
  return (⟨program, accounts, data⟩, table)

/-- The data of the instruction that appends addresses to a table. -/
def extendData (addresses : List Key) : Bytes :=
  Bytes.littleEndian 4 2 ++ Bytes.littleEndian 8 addresses.length ++
    addresses.flatMap Key.toBytes

/-- The instruction that appends addresses to a table.  A payer is named when the table may have to
grow its account. -/
def extendInstruction (table authority : Key) (payer : Option Key) (addresses : List Key) :
    Instruction :=
  let funding : List AccountMeta :=
    match payer with
    | some payer => [⟨payer, true, true⟩, ⟨SystemProgram.program, false, false⟩]
    | none => []
  ⟨program, [⟨table, false, true⟩, ⟨authority, true, false⟩] ++ funding, extendData addresses⟩

end SolanaTransactions.LookupTable
