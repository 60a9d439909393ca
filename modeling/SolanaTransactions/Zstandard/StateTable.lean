/-
Module: SolanaTransactions.Zstandard.StateTable
Purpose: Tables of states that decode symbols of unequal shares.
Main exports: StateTable, StateTable.ofShares, StateTable.single, StateTable.takeFrom
-/
import SolanaTransactions.Zstandard.Bits

namespace SolanaTransactions.Zstandard

/-!
A coder of this kind is always in a state.  A state stands for a symbol, and tells
how many bits have to be read and what has to be added to them to find the next
state.  A symbol has as many states as its share says; a symbol whose share is less
than one state has a single one at the end of the table.
-/

/-- What a state stands for. -/
structure StateEntry where
  symbol : Nat
  /-- How many bits lead to the next state. -/
  width : Nat
  /-- What is added to these bits. -/
  base : Nat
deriving DecidableEq, Inhabited, Repr

/-- The states of a coder; there are as many as numbers of `width` bits. -/
structure StateTable where
  width : Nat
  entries : Array StateEntry
deriving DecidableEq, Inhabited, Repr

namespace StateTable

/-- The table with one symbol, which needs no bits. -/
def single (symbol : Nat) : StateTable := ⟨0, #[⟨symbol, 0, 0⟩]⟩

/-- The entry of a state. -/
def entry (table : StateTable) (state : Nat) : StateEntry := table.entries.getD state default

/-- The share of a symbol that has less than one state. -/
def rare : Int := -1

/-- The symbols with their shares. -/
def numbered (shares : List Int) : List (Int × Nat) := shares.zipIdx

/-- The symbols that have a single state at the end, the first of them last. -/
def rareSymbols (shares : List Int) : List Nat :=
  ((numbered shares).filterMap fun (share, symbol) =>
    if share = rare then some symbol else none).reverse

/-- The other symbols, as often as they have states. -/
def commonSymbols (shares : List Int) : List Nat :=
  (numbered shares).flatMap fun (share, symbol) => List.replicate share.toNat symbol

/-- The states in the order in which the common symbols get them: with a fixed step around the
table, and only the first `count` ones. -/
def spread (size count : Nat) : List Nat :=
  let step := size / 2 + size / 8 + 3
  ((List.range size).map fun turn => turn * step % size).filter (· < count)

/-- The symbols of all states in order. -/
def symbols (size : Nat) (shares : List Int) : Array Nat :=
  let last := rareSymbols shares
  let count := size - last.length
  let blank := (List.replicate count 0 ++ last).toArray
  ((spread size count).zip (commonSymbols shares)).foldl
    (fun cells (state, symbol) => cells.setIfInBounds state symbol) blank

/-- How many states a symbol has. -/
def stateCount (share : Int) : Nat := share.natAbs

/-- The entries of states that come after others.  For each symbol the next number is given that one
of its states gets. -/
def entriesFrom (width : Nat) (next : Array Nat) : List Nat → List StateEntry
  | [] => []
  | symbol :: rest =>
      let number := next.getD symbol 1
      let bits := width - Nat.log2 number
      ⟨symbol, bits, number * Nat.pow 2 bits - Nat.pow 2 width⟩ ::
        entriesFrom width (next.setIfInBounds symbol (number + 1)) rest

/-- The table of the shares of all symbols, which have `2 ^ width` states together. -/
def ofShares (width : Nat) (shares : List Int) : StateTable :=
  let cells := symbols (Nat.pow 2 width) shares
  ⟨width, (entriesFrom width (shares.map stateCount).toArray cells.toList).toArray⟩

/-- A run of symbols without any state: numbers of two bits, of which the last one is not three. -/
def takeZeros : Bits → Option (Nat × Bits)
  | low :: high :: rest =>
      let count := low.toNat + 2 * high.toNat
      if count = 3 then (takeZeros rest).map fun (more, after) => (3 + more, after)
      else some (count, rest)
  | _ => none

/-- A number from zero up to a bound.  Small numbers need one bit less than large ones. -/
def takeBounded (bound : Nat) (bits : Bits) : Option (Nat × Bits) := do
  let width := Nat.log2 bound
  let half := Nat.pow 2 width
  let short := 2 * half - 1 - bound
  let (low, rest) ← Bits.takeLow width bits
  if low < short then some (low, rest)
  else
    let (high, after) ← Bits.takeLow 1 rest
    some (if high = 0 then low else low + half - short, after)

/-- Shares that add up to a number of states, in at most `steps` steps. -/
def takeShares : Nat → Nat → Bits → Option (List Int × Bits)
  | _, 0, bits => some ([], bits)
  | 0, _ + 1, _ => none
  | steps + 1, states + 1, bits => do
      let (number, rest) ← takeBounded (states + 2) bits
      let share : Int := (number : Int) - 1
      let (zeros, after) ← if share = 0 then takeZeros rest else some (0, rest)
      let (later, last) ← takeShares steps (states + 1 - stateCount share) after
      some (share :: List.replicate zeros 0 ++ later, last)

/-- The table that is described at the front of a byte string, and the bytes after it.  It may have
states of at most `maxWidth` bits, and symbols up to `maxSymbol`. -/
def takeFrom (maxWidth maxSymbol : Nat) (bytes : Bytes) : Option (StateTable × Bytes) := do
  let bits := Bits.forward bytes
  let (excess, rest) ← Bits.takeLow 4 bits
  let width := 5 + excess
  if maxWidth < width then none
  else
    let (shares, after) ← takeShares (maxSymbol + 1) (Nat.pow 2 width) rest
    if maxSymbol + 1 < shares.length then none
    else some (ofShares width shares, bytes.drop ((bits.length - after.length + 7) / 8))

end StateTable

end SolanaTransactions.Zstandard
