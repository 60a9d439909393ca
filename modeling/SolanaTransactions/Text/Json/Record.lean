/-
Module: SolanaTransactions.Text.Json.Record
Purpose: Reading records and alternatives out of JSON values.
Main exports: JsonRecord, JsonValue.record?, JsonValue.alternative?
-/
import SolanaTransactions.Limits
import SolanaTransactions.Text.Json

namespace SolanaTransactions

/-!
A record has a list of names.  An object gives its parts by name; it may have more
fields, but none of the names twice.  An array gives its parts in the order of the
names; it may not have more elements, and it may lack only those at the end that the
record can do without.

An alternative is a name alone, or an object with one field: the name of the
alternative and what it holds.
-/

/-- The parts of a record under their names. -/
abbrev JsonRecord := List (String × JsonValue)

namespace JsonValue

/-- A natural number below a bound. -/
def natBelow? (bound : Nat) : JsonValue → Option Nat
  | integer number => if 0 ≤ number ∧ number < bound then some number.toNat else none
  | _ => none

/-- A natural number of 8 bits. -/
def nat8? (value : JsonValue) : Option Nat := value.natBelow? 256

/-- A natural number of 32 bits. -/
def nat32? (value : JsonValue) : Option Nat := value.natBelow? halfWordLimit

/-- A natural number of 64 bits. -/
def nat64? (value : JsonValue) : Option Nat := value.natBelow? wordLimit

/-- A string. -/
def string? : JsonValue → Option String
  | string value => some value
  | _ => none

/-- A truth value. -/
def bool? : JsonValue → Option Bool
  | bool value => some value
  | _ => none

/-- Nothing. -/
def null? : JsonValue → Option Unit
  | null => some ()
  | _ => none

/-- A list whose elements can all be read. -/
def list? {α : Type} (read? : JsonValue → Option α) : JsonValue → Option (List α)
  | array elements => elements.mapM read?
  | _ => none

/-- A value in whose place there may be nothing. -/
def orNull? {α : Type} (read? : JsonValue → Option α) : JsonValue → Option (Option α)
  | null => some none
  | value => (read? value).map some

/-- Two values in an array. -/
def pair? {α β : Type} (first? : JsonValue → Option α) (second? : JsonValue → Option β) :
    JsonValue → Option (α × β)
  | array [first, second] => do
      let first ← first? first
      let second ← second? second
      some (first, second)
  | _ => none

/-- The record with some names, of which an array has to give the first `least` ones. -/
def record? (names : List String) (least : Nat) : JsonValue → Option JsonRecord
  | object fields =>
      let parts := fields.filter fun field => names.contains field.1
      if (parts.map (·.1)).eraseDups.length = parts.length then some parts else none
  | array elements =>
      if least ≤ elements.length ∧ elements.length ≤ names.length then some (names.zip elements)
      else none
  | _ => none

/-- The name of an alternative and what it holds. -/
def alternative? : JsonValue → Option (String × Option JsonValue)
  | string name => some (name, none)
  | object [(name, content)] => some (name, some content)
  | _ => none

/-- The name of an alternative that holds nothing. -/
def plainAlternative? (value : JsonValue) : Option String :=
  match value.alternative? with
  | some (name, none) => some name
  | some (name, some null) => some name
  | _ => none

end JsonValue

namespace JsonRecord

/-- A part that may not be missing. -/
def required? {α : Type} (read? : JsonValue → Option α) (name : String) (record : JsonRecord) :
    Option α := (record.lookup name).bind read?

/-- A part that may be missing. -/
def optional? {α : Type} (read? : JsonValue → Option α) (name : String) (record : JsonRecord) :
    Option (Option α) :=
  match record.lookup name with
  | none => some none
  | some value => value.orNull? read?

end JsonRecord

end SolanaTransactions
