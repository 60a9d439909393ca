/-
Module: SolanaTransactions.ProgramAddress
Purpose: Addresses that belong to a program because no secret key can.
Main exports: ProgramAddress.candidate, ProgramAddress.find?
-/
import SolanaTransactions.Crypto.Ed25519

namespace SolanaTransactions.ProgramAddress

/-- The bytes that mark the hash of a program address. -/
def mark : Bytes := "ProgramDerivedAddress".toList.map fun character =>
  UInt8.ofNat character.toNat

/-- The hash of seeds, a bump byte and a program. -/
def candidate (seeds : Bytes) (program : Key) (bump : UInt8) : Bytes :=
  Sha2.sha256 (seeds ++ bump :: program.toBytes ++ mark)

/-- The address and the bump of the first candidate, with bumps below a limit from the highest
downward, that is no point of the signature curve. -/
def findBelow? (seeds : Bytes) (program : Key) : Nat → Option (Key × UInt8)
  | 0 => none
  | limit + 1 =>
      let bump := UInt8.ofNat limit
      let hash := candidate seeds program bump
      if Ed25519.isPoint hash then findBelow? seeds program limit
      else some (Key.ofBytes hash, bump)

/-- The address that a program derives from seeds, with its bump byte. -/
def find? (seeds : Bytes) (program : Key) : Option (Key × UInt8) := findBelow? seeds program 256

end SolanaTransactions.ProgramAddress
