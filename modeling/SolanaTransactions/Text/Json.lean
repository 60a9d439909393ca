/-
Module: SolanaTransactions.Text.Json
Purpose: JSON values and the way in which they are shown inside a message.
Main exports: JsonValue, JsonValue.unrepeated, JsonValue.displayed
-/
import SolanaTransactions.Decimal.Shortest
import SolanaTransactions.Text.Hidden

namespace SolanaTransactions

/-- A JSON value.  Integers and other numbers are told apart, and an object keeps its fields in
order. -/
inductive JsonValue where
  | null
  | bool (value : Bool)
  | integer (value : Int)
  | decimal (value : Double)
  | string (value : String)
  /-- A string in which surrogates stand alone, so that it is no text: its code points. -/
  | broken (codes : List Nat)
  | array (elements : List JsonValue)
  | object (fields : List (String × JsonValue))
deriving Inhabited, Repr

namespace JsonValue

/-- Write a field into a list with one field a name; a name keeps its place. -/
def define (name : String) (value : JsonValue) :
    List (String × JsonValue) → List (String × JsonValue)
  | [] => [(name, value)]
  | (other, former) :: rest =>
      if other = name then (name, value) :: rest else (other, former) :: define name value rest

/-- Fields with one value a name: the last one, at the place of the first. -/
def lastWins (fields : List (String × JsonValue)) : List (String × JsonValue) :=
  fields.foldl (fun unique (name, value) => define name value unique) []

mutual

/-- A value in which every object has one value a name. -/
def unrepeated : JsonValue → JsonValue
  | array elements => array (unrepeatedElements elements)
  | object fields => object (lastWins (unrepeatedFields fields))
  | value => value

/-- The elements of an array in which every object has one value a name. -/
def unrepeatedElements : List JsonValue → List JsonValue
  | [] => []
  | element :: rest => unrepeated element :: unrepeatedElements rest

/-- The fields of an object in whose values every object has one value a name. -/
def unrepeatedFields : List (String × JsonValue) → List (String × JsonValue)
  | [] => []
  | (name, value) :: rest => (name, unrepeated value) :: unrepeatedFields rest

end

/-- The format of the decimal numbers inside a message: powers of ten are written from `1e+16` on
and below `0.0001`, with two digits at least. -/
def decimalFormat : FloatFormat := ⟨-4, 16, 2⟩

/-- A number below 16 as a lowercase digit, or a longer number with some digits. -/
def hexText (width number : Nat) : List Char :=
  (List.range width).reverse.map fun place => Nat.digitChar (number / Nat.pow 16 place % 16)

/-- Whether a code point is a surrogate, which is no character. -/
def isSurrogate (code : Nat) : Bool := 0xD800 ≤ code && code < 0xE000

/-- A character as it is shown between quotes. -/
def shownCharacter (quote character : Char) : List Char :=
  let code := character.toNat
  if character == quote || character == '\\' then ['\\', character]
  else if character == '\n' then ['\\', 'n']
  else if character == '\r' then ['\\', 'r']
  else if character == '\t' then ['\\', 't']
  else if isHidden character then
    if code < 0x100 then '\\' :: 'x' :: hexText 2 code
    else if code < 0x10000 then '\\' :: 'u' :: hexText 4 code
    else '\\' :: 'U' :: hexText 8 code
  else [character]

/-- The quote between which characters are shown: a single one, or a double one when the characters
hold a single quote and no double one. -/
def quoteFor (characters : List Char) : Char :=
  if characters.contains '\x27' && !characters.contains '\x22' then '\x22' else '\x27'

/-- A string as it is shown inside another value. -/
def quoted (value : String) : String :=
  let characters := value.toList
  let quote := quoteFor characters
  String.ofList (quote :: characters.flatMap (shownCharacter quote) ++ [quote])

/-- A code point as it is shown between quotes. -/
def shownCode (quote : Char) (code : Nat) : List Char :=
  if isSurrogate code then '\\' :: 'u' :: hexText 4 code
  else shownCharacter quote (Char.ofNat code)

/-- Code points as characters, with a replacement for each surrogate. -/
def replaced (codes : List Nat) : List Char :=
  codes.map fun code => if isSurrogate code then '\uFFFD' else Char.ofNat code

/-- Code points as they are shown inside another value. -/
def quotedCodes (codes : List Nat) : String :=
  let quote := quoteFor (replaced codes)
  String.ofList (quote :: codes.flatMap (shownCode quote) ++ [quote])

/-- Texts with a comma between each two of them. -/
def joined : List String → String
  | [] => ""
  | [last] => last
  | first :: rest => first ++ ", " ++ joined rest

mutual

/-- A value as it is shown inside another one. -/
def shown : JsonValue → String
  | null => "None"
  | bool value => if value then "True" else "False"
  | integer value => toString value
  | decimal value => value.text decimalFormat
  | string value => quoted value
  | broken codes => quotedCodes codes
  | array elements => "[" ++ joined (shownElements elements) ++ "]"
  | object fields => "\x7b" ++ joined (shownFields fields) ++ "\x7d"

/-- The elements of an array as they are shown. -/
def shownElements : List JsonValue → List String
  | [] => []
  | element :: rest => shown element :: shownElements rest

/-- The fields of an object as they are shown. -/
def shownFields : List (String × JsonValue) → List String
  | [] => []
  | (name, value) :: rest => (quoted name ++ ": " ++ shown value) :: shownFields rest

end

/-- A value as it is shown in a message: a string as it is, and every other value by its parts. -/
def displayed : JsonValue → String
  | string value => value
  | broken codes => String.ofList (replaced codes)
  | value => shown value

end JsonValue

end SolanaTransactions
