/-
Module: SolanaTransactions.Keypair.Notation
Purpose: The texts that stand for a keypair.
Main exports: KeyNotation, KeyNotation.ofText, KeypairFault, Keypair.ofText, Keypair.load
-/
import SolanaTransactions.Keypair.Folder
import SolanaTransactions.SignatureScheme
import SolanaTransactions.Text.Base58
import SolanaTransactions.Text.Json.Reader

namespace SolanaTransactions

/-!
The 64 bytes of a keypair are written as a JSON array of numbers, as numbers with
commas between them, or in base58.  A text in brackets is an array, any other text
with a comma is a list of numbers, and what remains is base58.  A text may also be
the path of a file that holds one of these.
-/

/-- Why a text gives no keypair. -/
inductive KeypairFault where
  /-- The path leads to a directory. -/
  | directory
  /-- A text in brackets is no JSON. -/
  | noJson (fault : JsonFault)
  /-- An element of an array is no integer. -/
  | noInteger
  /-- A part between commas is no integer. -/
  | noNumber
  /-- A number is no byte. -/
  | noByte (number : Int)
  /-- A base58 text holds a character beyond ASCII. -/
  | noAscii
  /-- A base58 text holds a character that is no digit. -/
  | noBase58
  /-- The bytes are no seed with the key that belongs to it. -/
  | noKeypair
deriving DecidableEq, Inhabited, Repr

/-- The three ways to write the bytes of a keypair. -/
inductive KeyNotation where
  | array
  | list
  | base58
deriving DecidableEq, Inhabited, Repr

namespace KeyNotation

/-- The notation that a text is read as. -/
def ofText (text : List Char) : KeyNotation :=
  if text.head? = some '[' ∧ text.getLast? = some ']' then array
  else if ',' ∈ text then list
  else base58

/-- The byte of a number. -/
def byte (number : Int) : Except KeypairFault UInt8 :=
  if 0 ≤ number ∧ number < 256 then .ok (UInt8.ofNat number.toNat) else .error (.noByte number)

/-- The byte of an element of an array; a truth value counts as a number. -/
def element : JsonValue → Except KeypairFault UInt8
  | .integer number => byte number
  | .bool value => .ok (if value then 1 else 0)
  | _ => .error .noInteger

/-- The parts of a text between commas. -/
def parts : List Char → List (List Char)
  | [] => [[]]
  | character :: rest =>
      if character == ',' then [] :: parts rest
      else
        match parts rest with
        | [] => [[character]]
        | first :: later => (character :: first) :: later

/-- The byte of a part between commas. -/
def part (text : List Char) : Except KeypairFault UInt8 :=
  match Integer.read? text with
  | some number => byte number
  | none => .error .noNumber

/-- The bytes that a base58 text stands for; spaces in it do not count, nor do blanks at its end. -/
def readBase58 (text : List Char) : Except KeypairFault Bytes :=
  let digits := trimEnd (text.filter (· != ' '))
  if digits.any fun character => 128 ≤ character.toNat then .error .noAscii
  else
    match Base58.decodeChars? digits with
    | some bytes => .ok bytes
    | none => .error .noBase58

/-- The bytes that a text stands for in a notation. -/
def read : KeyNotation → List Char → Except KeypairFault Bytes
  | array, text =>
      match JsonValue.read .lenient text with
      | .ok (.array elements) => elements.mapM element
      | .ok _ => .error .noInteger
      | .error fault => .error (.noJson fault)
  | list, text => (parts text).mapM part
  | base58, text => readBase58 text

end KeyNotation

namespace Keypair

/-- The keypair that a text stands for. -/
def ofText (scheme : SignatureScheme) (text : List Char) : Except KeypairFault Keypair := do
  let bytes ← (KeyNotation.ofText text).read text
  match Keypair.ofBytes? scheme bytes with
  | some keypair => .ok keypair
  | none => .error .noKeypair

/-- The keypair that a text stands for, or the text of the file that it leads to. -/
def load (scheme : SignatureScheme) (folder : Folder) (text : String) :
    Except KeypairFault Keypair :=
  match folder.find text with
  | .directory => .error .directory
  | .file content => ofText scheme (trim (unifyLineEnds content.toList))
  | .nothing => ofText scheme text.toList

end Keypair

end SolanaTransactions
