/-
Module: SolanaTransactions.Text.Json.Writer
Purpose: Writing JSON text.
Main exports: JsonValue.toText
-/
import SolanaTransactions.Text.Json

namespace SolanaTransactions.JsonValue

/-!
A value is written without spaces and with the escapes that it cannot do without:
quotes, backslashes, control characters and surrogates that stand alone.
-/

/-- A character inside a string. -/
def writtenCharacter (character : Char) : List Char :=
  if character == '\x22' || character == '\\' then ['\\', character]
  else if character == '\n' then ['\\', 'n']
  else if character.toNat < 32 then '\\' :: 'u' :: hexText 4 character.toNat
  else [character]

/-- A code point inside a string. -/
def writtenCode (code : Nat) : List Char :=
  if isSurrogate code then '\\' :: 'u' :: hexText 4 code else writtenCharacter (Char.ofNat code)

/-- A string between its quotes. -/
def writtenString (value : String) : String :=
  String.ofList ('\x22' :: value.toList.flatMap writtenCharacter ++ ['\x22'])

/-- The text of a decimal number; the names of the values that are none are those of the lenient
dialect. -/
def writtenDecimal : Double → String
  | .nan => "NaN"
  | .infinite negative => if negative then "-Infinity" else "Infinity"
  | value => value.text decimalFormat

/-- Texts with a comma between each two of them, without spaces. -/
def separated : List String → String
  | [] => ""
  | first :: rest => rest.foldl (fun text next => text ++ "," ++ next) first

mutual

/-- The text of a value. -/
def toText : JsonValue → String
  | null => "null"
  | bool value => if value then "true" else "false"
  | integer value => toString value
  | decimal value => writtenDecimal value
  | string value => writtenString value
  | broken codes => String.ofList ('\x22' :: codes.flatMap writtenCode ++ ['\x22'])
  | array elements => "[" ++ separated (elementTexts elements) ++ "]"
  | object fields => "\x7b" ++ separated (fieldTexts fields) ++ "\x7d"

/-- The texts of the elements of an array. -/
def elementTexts : List JsonValue → List String
  | [] => []
  | element :: rest => toText element :: elementTexts rest

/-- The texts of the fields of an object. -/
def fieldTexts : List (String × JsonValue) → List String
  | [] => []
  | (name, value) :: rest => (writtenString name ++ ":" ++ toText value) :: fieldTexts rest

end

end SolanaTransactions.JsonValue
