/-
Module: SolanaTransactions.Rpc.Account
Purpose: The state of an account in a reply, and the encodings of its data.
Main exports: AccountEncoding, AccountEncoding.decode?, readKey?, readAccount?
-/
import SolanaTransactions.Key
import SolanaTransactions.Text.Base64
import SolanaTransactions.Text.Json.Record
import SolanaTransactions.Zstandard.Frame

namespace SolanaTransactions

open JsonValue

/-- How the data of an account is written in a text. -/
inductive AccountEncoding where
  | base58
  | base64
  /-- The compressed data is written in base64. -/
  | compressed
deriving DecidableEq, Inhabited, Repr

namespace AccountEncoding

/-- The encoding of a word. -/
def ofWord? : String → Option AccountEncoding
  | "base58" => some base58
  | "base64" => some base64
  | "base64+zstd" => some compressed
  | _ => none

/-- The bytes that a text stands for. -/
def decode? : AccountEncoding → String → Option Bytes
  | base58, text => Base58.decode? text
  | base64, text => Base64.decode? text
  | compressed, text => (Base64.decode? text).bind Zstandard.decompress?

end AccountEncoding

/-- A key. -/
def readKey? (value : JsonValue) : Option Key := value.string?.bind Key.ofText?

/-- An encoding. -/
def readEncoding? (value : JsonValue) : Option AccountEncoding :=
  value.plainAlternative?.bind AccountEncoding.ofWord?

/-- The data of an account: a text and its encoding, or a base58 text alone. -/
def readData? : JsonValue → Option Bytes
  | .string text => AccountEncoding.base58.decode? text
  | value => do
      let (text, encoding) ← value.pair? string? readEncoding?
      encoding.decode? text

/-- The data of an account whose state is complete. -/
def readAccount? (value : JsonValue) : Option Bytes := do
  let names := ["lamports", "data", "owner", "executable", "rentEpoch", "space"]
  let parts ← value.record? names names.length
  let _ ← parts.required? nat64? "lamports"
  let data ← parts.required? readData? "data"
  let _ ← parts.required? readKey? "owner"
  let _ ← parts.required? bool? "executable"
  let _ ← parts.required? nat64? "rentEpoch"
  let _ ← parts.optional? nat64? "space"
  some data

end SolanaTransactions
