/-
Module: SolanaTransactions.Settings.EnvFile
Purpose: Files that define environment variables.
Main exports: EnvFile.definitions, EnvFile.expand, EnvFile.resolve, Variables
-/
import SolanaTransactions.Text.Blank

namespace SolanaTransactions

/-- Variables with their values, in the order of their definitions. -/
abbrev Variables := List (String × String)

namespace EnvFile

/-!
A line defines a variable: `NAME=value`, with `export` or nothing in front of it.
A value between quotes may hold escapes and line ends; any other value ends at the
line end or at a comment, which is a `#` after a blank, and may be empty.  A name
without `=` takes back what was defined under it.  A line that is neither is skipped.
-/

/-- A blank that does not end a line. -/
def isInlineBlank (character : Char) : Bool := isBlank character && character != '\n'

/-- A text without the blanks in front of it on the same line. -/
def skipInline (characters : List Char) : List Char := characters.dropWhile isInlineBlank

/-- The text after the present line. -/
def skipLine (characters : List Char) : List Char := (characters.dropWhile (· != '\n')).drop 1

/-- A text without the word `export` in front of it. -/
def skipExport (characters : List Char) : List Char :=
  let word := "export".toList
  let after := characters.drop word.length
  if word.isPrefixOf characters && (after.head?.any isInlineBlank) then skipInline after
  else characters

/-- The inside of a quoted text after its opening quote, and what follows it.  A backslash keeps a
quote inside, unless a backslash keeps that one or the text could not be closed otherwise. -/
def takeQuoted (quote : Char) : List Char → Option (List Char × List Char)
  | [] => none
  | '\\' :: next :: rest =>
      if next == '\\' then
        (takeQuoted quote rest).map fun (inside, after) => ('\\' :: next :: inside, after)
      else if next == quote then
        match takeQuoted quote rest with
        | some (inside, after) => some ('\\' :: next :: inside, after)
        | none => some (['\\'], rest)
      else (takeQuoted quote (next :: rest)).map fun (inside, after) => ('\\' :: inside, after)
  | character :: rest =>
      if character == quote then some ([], rest)
      else (takeQuoted quote rest).map fun (inside, after) => (character :: inside, after)

/-- What a backslash and a character stand for between single quotes. -/
def singleEscape? : Char → Option Char
  | '\\' => some '\\'
  | '\x27' => some '\x27'
  | _ => none

/-- What a backslash and a character stand for between double quotes. -/
def doubleEscape? : Char → Option Char
  | '\\' => some '\\'
  | '\x27' => some '\x27'
  | '\x22' => some '\x22'
  | 'a' => some '\x07'
  | 'b' => some '\x08'
  | 'f' => some '\x0c'
  | 'n' => some '\n'
  | 'r' => some '\r'
  | 't' => some '\t'
  | 'v' => some '\x0b'
  | _ => none

/-- A text with its escapes replaced by what they stand for. -/
def unescape (escape? : Char → Option Char) : List Char → List Char
  | [] => []
  | '\\' :: next :: rest =>
      match escape? next with
      | some character => character :: unescape escape? rest
      | none => '\\' :: unescape escape? (next :: rest)
  | character :: rest => character :: unescape escape? rest

/-- A line without the comment in it: a `#` opens one after a blank. -/
def dropComment (afterBlank : Bool) : List Char → List Char
  | [] => []
  | character :: rest =>
      if afterBlank && character == '#' then []
      else character :: dropComment (isBlank character) rest

/-- The value after an equals sign, and what follows it; nothing when a quote is not closed. -/
def takeValue? (characters : List Char) : Option (List Char × List Char) :=
  match skipInline characters with
  | '\x27' :: rest =>
      (takeQuoted '\x27' rest).map fun (inside, after) => (unescape singleEscape? inside, after)
  | '\x22' :: rest =>
      (takeQuoted '\x22' rest).map fun (inside, after) => (unescape doubleEscape? inside, after)
  | _ =>
      let line := characters.takeWhile (· != '\n')
      some (trim (dropComment false line), characters.dropWhile (· != '\n'))

/-- The name at the front of a text, and what follows it.  A comment has no name; nothing is given
back when there is neither. -/
def takeName? (characters : List Char) : Option (Option (List Char) × List Char) :=
  match characters with
  | '#' :: _ => some (none, characters)
  | '\x27' :: rest =>
      let (name, after) := rest.span (· != '\x27')
      match name, after with
      | _ :: _, _ :: closed => some (some name, closed)
      | _, _ => none
  | _ =>
      let (name, after) :=
        characters.span fun character => character != '=' && character != '#' && !isBlank character
      if name.isEmpty then none else some (some name, after)

/-- The text after the end of a definition, when nothing but blanks and a comment is left on its
line. -/
def endLine? (characters : List Char) : Option (List Char) :=
  let rest := skipInline characters
  let rest := if rest.head? = some '#' then rest.dropWhile (· != '\n') else rest
  match rest with
  | [] => some []
  | '\n' :: after => some after
  | _ => none

/-- A variable and its value; no value takes a definition back. -/
abbrev Definition := String × Option String

/-- The definition at the front of a text, if there is one, and the text after its line. -/
def takeDefinition (characters : List Char) : Option Definition × List Char :=
  let start := skipExport characters
  match takeName? start with
  | none => (none, skipLine start)
  | some (name, afterName) =>
      let rest := skipInline afterName
      let valued : Option (Option (List Char) × List Char) :=
        match rest with
        | '=' :: afterSign =>
            (takeValue? afterSign).map fun (value, after) => (some value, after)
        | _ => some (none, rest)
      match valued with
      | none => (none, skipLine rest)
      | some (value, after) =>
          match endLine? after with
          | none => (none, skipLine after)
          | some next =>
              (name.map fun name => (String.ofList name, value.map String.ofList), next)

/-- The definitions of a text with a number of characters at most, in their order. -/
def takeDefinitions : Nat → List Char → List Definition
  | 0, _ => []
  | length + 1, characters =>
      match characters.dropWhile isBlank with
      | [] => []
      | start =>
          let (definition, rest) := takeDefinition start
          definition.toList ++ takeDefinitions length rest

/-- A text without the mark of its byte order. -/
def skipMark : List Char → List Char
  | '\uFEFF' :: rest => rest
  | characters => characters

/-- The definitions of a file, in their order. -/
def definitions (content : String) : List Definition :=
  let characters := unifyLineEnds (skipMark content.toList)
  takeDefinitions characters.length characters

/-- The name and the default value of a reference after its opening `${`, and what follows it. -/
def takeReference? (characters : List Char) : Option (String × String × List Char) :=
  let (name, after) := characters.span fun character => character != '\x7d' && character != ':'
  match after with
  | '\x7d' :: rest => some (String.ofList name, "", rest)
  | ':' :: '-' :: rest =>
      let (usual, closing) := rest.span (· != '\x7d')
      match closing with
      | _ :: last => some (String.ofList name, String.ofList usual, last)
      | [] => none
  | _ => none

/-- A text with a number of characters at most, in which references are replaced by what a name
and a default value stand for. -/
def expandWithin (meaning : String → String → String) : Nat → List Char → List Char
  | 0, _ => []
  | length + 1, characters =>
      match characters with
      | '$' :: '\x7b' :: inside =>
          match takeReference? inside with
          | some (name, usual, rest) =>
              (meaning name usual).toList ++ expandWithin meaning length rest
          | none => '$' :: expandWithin meaning length ('\x7b' :: inside)
      | character :: rest => character :: expandWithin meaning length rest
      | [] => []

/-- A value in which references are replaced by what they stand for. -/
def expand (meaning : String → String → String) (value : String) : String :=
  String.ofList (expandWithin meaning value.length value.toList)

/-- Write a definition into a list with one definition a name. -/
def define (name : String) (value : Option String) : List Definition → List Definition
  | [] => [(name, value)]
  | (other, former) :: rest =>
      if other = name then (name, value) :: rest else (other, former) :: define name value rest

/-- What a reference stands for: a variable of the environment, else an earlier definition, else the
default value. -/
def meaning (environment : Variables) (earlier : List Definition) (name usual : String) : String :=
  match environment.lookup name with
  | some value => value
  | none =>
      match earlier.lookup name with
      | some value => value.getD ""
      | none => usual

/-- The last definition of each name, with its references replaced. -/
def resolve (environment : Variables) (listed : List Definition) : List Definition :=
  listed.foldl (fun earlier (name, value) =>
    define name (value.map (expand (meaning environment earlier))) earlier) []

/-- Whether a variable of this name and value can exist. -/
def isLawful (name value : String) : Bool :=
  !name.isEmpty && !name.contains '=' && !name.contains '\x00' && !value.contains '\x00'

/-- The variable of the environment that switches files off. -/
def offSwitch : String := "PYTHON_DOTENV_DISABLED"

/-- The values of the switch that mean yes, in lower case. -/
def offWords : List String := ["1", "true", "t", "yes", "y"]

/-- A character without regard to case, as far as letters are concerned that these words have. -/
def foldCase (character : Char) : Char :=
  if character == '\u017F' then 's' else character.toLower

/-- Whether the environment switches files off. -/
def isOff (environment : Variables) : Bool :=
  (environment.lookup offSwitch).any fun value =>
    offWords.contains (String.ofList (value.toList.map foldCase))

/-- The variables that a file adds to those of the environment, which win. -/
def added (environment : Variables) (content : String) : Variables :=
  (resolve environment (definitions content)).filterMap fun (name, value) =>
    if (environment.lookup name).isSome then none else value.map fun value => (name, value)

/-- The variables that hold after a file was read.  Nothing holds when the file defines a variable
that cannot exist. -/
def load? (environment : Variables) (content : String) : Option Variables :=
  let defined := if isOff environment then [] else added environment content
  if defined.all fun (name, value) => isLawful name value then some (environment ++ defined)
  else none

end EnvFile

end SolanaTransactions
