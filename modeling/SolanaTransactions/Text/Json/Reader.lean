/-
Module: SolanaTransactions.Text.Json.Reader
Purpose: Reading JSON text, in a lenient and in a strict dialect.
Main exports: JsonDialect, JsonFault, JsonValue.read
-/
import SolanaTransactions.Limits
import SolanaTransactions.Text.Json

namespace SolanaTransactions

/-!
Readers of JSON agree on its grammar and differ at its borders: how deep values
may nest, how long a number may be, whether a surrogate may stand alone in a
string.  A dialect is a choice at each of these borders.
-/

/-- What a text may hold beyond the grammar of JSON, and what its values become. -/
structure JsonDialect where
  /-- How deep arrays and objects may nest. -/
  maxDepth : Nat
  /-- The most digits that an integer may have, if there is a bound. -/
  maxDigits : Option Nat
  /-- Whether `NaN`, `Infinity` and `-Infinity` are numbers, and numbers may be as large as they
  like. -/
  unboundedNumbers : Bool
  /-- Whether integers have 64 bits; all others, and the negative zero, are decimal numbers. -/
  wordIntegers : Bool
  /-- Whether a surrogate may stand alone in a string. -/
  loneSurrogates : Bool
  /-- Whether an object keeps only the last of the fields with one name. -/
  lastWins : Bool
deriving DecidableEq, Inhabited, Repr

/-- The dialect of files and of replies that are not checked further. -/
def JsonDialect.lenient : JsonDialect :=
  { maxDepth := 990
    maxDigits := some 4300
    unboundedNumbers := true
    wordIntegers := false
    loneSurrogates := true
    lastWins := true }

/-- The dialect of replies whose results have a known shape. -/
def JsonDialect.strict : JsonDialect :=
  { maxDepth := 127
    maxDigits := none
    unboundedNumbers := false
    wordIntegers := true
    loneSurrogates := false
    lastWins := false }

/-- Why a text spells no value. -/
inductive JsonFault where
  /-- The text is not formed as the grammar and the dialect say. -/
  | malformed
  /-- Arrays and objects nest too deep. -/
  | tooDeep
  /-- An integer has too many digits. -/
  | tooLong
deriving DecidableEq, Inhabited, Repr

namespace JsonValue

/-!
A reader takes a value off the front of a list of characters and gives back the
rest.  The first fault in the order of the text is the fault of the whole.  Values
nest, so the reader of values is bounded by a number of steps.  Each character opens
at most one value in one list of values, so twice the length of the text is always
enough.
-/

/-- The characters that may stand between the parts of a JSON text. -/
def isSpace (character : Char) : Bool :=
  character == ' ' || character == '\t' || character == '\n' || character == '\r'

/-- A text without the spaces in front of it. -/
def skipSpace (characters : List Char) : List Char := characters.dropWhile isSpace

/-- The value of a hexadecimal digit. -/
def hexDigit? (character : Char) : Option Nat :=
  if character.isDigit then some (character.toNat - 48)
  else if 'a' ≤ character && character ≤ 'f' then some (character.toNat - 87)
  else if 'A' ≤ character && character ≤ 'F' then some (character.toNat - 55)
  else none

/-- The number of four hexadecimal digits. -/
def hexUnit? (a b c d : Char) : Option Nat := do
  let digits ← [a, b, c, d].mapM hexDigit?
  some (digits.foldl (fun number digit => 16 * number + digit) 0)

/-- What an escape of one letter stands for. -/
def escape? : Char → Option Nat
  | '\x22' => some 34
  | '\\' => some 92
  | '/' => some 47
  | 'b' => some 8
  | 'f' => some 12
  | 'n' => some 10
  | 'r' => some 13
  | 't' => some 9
  | _ => none

/-- The code units of a string up to its closing quote behind those that were read, last one first,
and the rest of the text.  Control characters have to be escaped. -/
def takeUnits (former : List Nat) : List Char → Option (List Nat × List Char)
  | [] => none
  | '\x22' :: rest => some (former, rest)
  | '\\' :: 'u' :: a :: b :: c :: d :: rest =>
      match hexUnit? a b c d with
      | some unit => takeUnits (unit :: former) rest
      | none => none
  | '\\' :: letter :: rest =>
      match escape? letter with
      | some unit => takeUnits (unit :: former) rest
      | none => none
  | character :: rest =>
      if character.toNat < 32 then none else takeUnits (character.toNat :: former) rest

/-- Put a code unit in front of code points: a high surrogate before a low one makes one code point
with it. -/
def joinUnit (codes : List Nat) (unit : Nat) : List Nat :=
  match codes with
  | low :: rest =>
      if 0xD800 ≤ unit ∧ unit < 0xDC00 ∧ 0xDC00 ≤ low ∧ low < 0xE000 then
        (0x10000 + (unit - 0xD800) * 0x400 + (low - 0xDC00)) :: rest
      else unit :: codes
  | [] => [unit]

/-- The string of code units, last one first. -/
def ofUnits (units : List Nat) : JsonValue :=
  let codes := units.foldl joinUnit []
  if codes.any isSurrogate then broken codes else string (String.ofList (codes.map Char.ofNat))

/-- A string after its opening quote. -/
def takeString (dialect : JsonDialect) (characters : List Char) :
    Except JsonFault (JsonValue × List Char) :=
  match takeUnits [] characters with
  | some (units, rest) =>
      match ofUnits units with
      | broken codes =>
          if dialect.loneSurrogates then .ok (broken codes, rest) else .error .malformed
      | value => .ok (value, rest)
  | none => .error .malformed

/-- The digits of a fraction behind its point; a point without digits is left. -/
def takeFraction : List Char → List Char × List Char
  | '.' :: rest =>
      match rest.span Char.isDigit with
      | ([], _) => ([], '.' :: rest)
      | (digits, after) => (digits, after)
  | characters => ([], characters)

/-- A power of ten; a mark without digits is left. -/
def takeExponent (characters : List Char) : Option Int × List Char :=
  match characters with
  | [] => (none, [])
  | mark :: rest =>
      if mark == 'e' || mark == 'E' then
        let (negative, unsigned) := Numeric.takeSign rest
        match unsigned.span Char.isDigit with
        | ([], _) => (none, characters)
        | (digits, after) =>
            let magnitude : Int := DecimalDigit.combine (digits.filterMap DecimalDigit.ascii?)
            (some (if negative then -magnitude else magnitude), after)
      else (none, characters)

/-- A decimal number, unless it is too large for a double in a dialect that bounds numbers. -/
def ofDecimal (dialect : JsonDialect) (negative : Bool) (digits : Nat) (exponent : Int) :
    Except JsonFault JsonValue :=
  match Double.ofDecimal negative digits exponent with
  | .infinite sign =>
      if dialect.unboundedNumbers then .ok (decimal (.infinite sign)) else .error .malformed
  | value => .ok (decimal value)

/-- Whether an integer has 64 bits: one that is not negative has no sign. -/
def fitsWord (negative : Bool) (magnitude : Nat) : Bool :=
  if negative then 0 < magnitude && magnitude ≤ wordLimit / 2 else magnitude < wordLimit

/-- The number of a whole part, a fraction and a power of ten: an integer when there is nothing but
a whole part. -/
def ofParts (dialect : JsonDialect) (negative : Bool) (whole fraction : List Char)
    (exponent : Option Int) : Except JsonFault JsonValue :=
  let digits := DecimalDigit.combine ((whole ++ fraction).filterMap DecimalDigit.ascii?)
  if fraction.isEmpty && exponent.isNone then
    if dialect.maxDigits.any fun most => most < whole.length then .error .tooLong
    else if dialect.wordIntegers && !fitsWord negative digits then
      ofDecimal dialect negative digits 0
    else .ok (integer (if negative then -(digits : Int) else digits))
  else ofDecimal dialect negative digits (exponent.getD 0 - fraction.length)

/-- An unsigned number.  A whole part has no zero in front of it. -/
def takeNumber (dialect : JsonDialect) (negative : Bool) (characters : List Char) :
    Except JsonFault (JsonValue × List Char) :=
  let (whole, afterWhole) :=
    match characters with
    | '0' :: rest => (['0'], rest)
    | _ => characters.span Char.isDigit
  if whole.isEmpty then .error .malformed
  else
    let (fraction, afterFraction) := takeFraction afterWhole
    let (exponent, rest) := takeExponent afterFraction
    match ofParts dialect negative whole fraction exponent with
    | .ok number => .ok (number, rest)
    | .error fault => .error fault

/-- The words that stand for values. -/
def words : List (List Char × JsonValue) :=
  [("null".toList, null), ("true".toList, bool true), ("false".toList, bool false)]

/-- The words that stand for numbers without digits. -/
def numberWords : List (List Char × JsonValue) :=
  [("NaN".toList, decimal .nan), ("Infinity".toList, decimal (.infinite false)),
    ("-Infinity".toList, decimal (.infinite true))]

/-- A word that stands for a value. -/
def takeWord (dialect : JsonDialect) (characters : List Char) : Option (JsonValue × List Char) :=
  let known := if dialect.unboundedNumbers then words ++ numberWords else words
  known.findSome? fun (word, value) =>
    if word.isPrefixOf characters then some (value, characters.drop word.length) else none

/-- A name as text; a surrogate that stands alone is replaced. -/
def nameText : JsonValue → String
  | string text => text
  | broken codes => String.ofList (replaced codes)
  | _ => ""

mutual

/-- A value that opens at most `room` arrays and objects inside one another. -/
def takeValue (dialect : JsonDialect) (room : Nat) :
    Nat → List Char → Except JsonFault (JsonValue × List Char)
  | 0, _ => .error .malformed
  | steps + 1, characters =>
      match characters with
      | '\x22' :: rest => takeString dialect rest
      | '[' :: rest =>
          match room with
          | 0 => .error .tooDeep
          | inner + 1 =>
              match skipSpace rest with
              | ']' :: after => .ok (array [], after)
              | start => do
                  let (elements, after) ← takeElements dialect inner steps start
                  .ok (array elements, after)
      | '\x7b' :: rest =>
          match room with
          | 0 => .error .tooDeep
          | inner + 1 =>
              match skipSpace rest with
              | '\x7d' :: after => .ok (object [], after)
              | start => do
                  let (fields, after) ← takeFields dialect inner steps start
                  .ok (object fields, after)
      | _ =>
          match takeWord dialect characters with
          | some found => .ok found
          | none =>
              match characters with
              | '-' :: rest => takeNumber dialect true rest
              | _ => takeNumber dialect false characters

/-- The elements of an array up to its closing bracket. -/
def takeElements (dialect : JsonDialect) (room : Nat) :
    Nat → List Char → Except JsonFault (List JsonValue × List Char)
  | 0, _ => .error .malformed
  | steps + 1, characters => do
      let (element, after) ← takeValue dialect room steps characters
      match skipSpace after with
      | ']' :: rest => .ok ([element], rest)
      | ',' :: rest =>
          let (elements, last) ← takeElements dialect room steps (skipSpace rest)
          .ok (element :: elements, last)
      | _ => .error .malformed

/-- The fields of an object up to its closing brace. -/
def takeFields (dialect : JsonDialect) (room : Nat) :
    Nat → List Char → Except JsonFault (List (String × JsonValue) × List Char)
  | 0, _ => .error .malformed
  | steps + 1, characters =>
      match characters with
      | '\x22' :: opened => do
          let (name, afterName) ← takeString dialect opened
          match skipSpace afterName with
          | ':' :: afterColon =>
              let (value, after) ← takeValue dialect room steps (skipSpace afterColon)
              match skipSpace after with
              | '\x7d' :: rest => .ok ([(nameText name, value)], rest)
              | ',' :: rest =>
                  let (fields, last) ← takeFields dialect room steps (skipSpace rest)
                  .ok ((nameText name, value) :: fields, last)
              | _ => .error .malformed
          | _ => .error .malformed
      | _ => .error .malformed

end

/-- The value that a text spells in a dialect, with spaces around it at most. -/
def read (dialect : JsonDialect) (characters : List Char) : Except JsonFault JsonValue := do
  let (value, rest) ←
    takeValue dialect dialect.maxDepth (2 * characters.length + 2) (skipSpace characters)
  if (skipSpace rest).isEmpty then .ok (if dialect.lastWins then value.unrepeated else value)
  else .error .malformed

end JsonValue

end SolanaTransactions
