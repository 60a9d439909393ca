/-
Module: SolanaTransactions.ComputeBudget.RecentFee
Purpose: A price for compute units drawn from the fees that were paid lately.
Main exports: FeeStrategy, recentFee, newestSamples, askRecentFee
-/
import SolanaTransactions.Client

namespace SolanaTransactions

/-- How one fee is drawn from several. -/
inductive FeeStrategy where
  | latest
  | greatest
  | average
deriving DecidableEq, Inhabited, Repr

/-- The strategy of a name; every other name means the average. -/
def FeeStrategy.ofName (name : String) : FeeStrategy :=
  if name = "latest" then latest else if name = "max" then greatest else average

/-- How many samples are looked at when the caller does not say. -/
def defaultSlotsToCheck : Int := 10

/-- The elements of a list up to an end; a negative end counts from the end of the list. -/
def takeUpTo {α : Type} (stop : Int) (elements : List α) : List α :=
  elements.take (if stop < 0 then stop + elements.length else stop).toNat

/-- The newest samples, in descending order of their slots. -/
def newestSamples (count : Int) (samples : List FeeSample) : List FeeSample :=
  takeUpTo count (samples.mergeSort fun left right => right.slot ≤ left.slot)

/-- The greater one of two fees. -/
def greater (left right : Int) : Int := if left < right then right else left

/-- The sum of fees. -/
def total : List Int → Int
  | [] => 0
  | fee :: rest => fee + total rest

/-- The fee that a strategy draws from the newest of some samples. -/
def recentFee (strategy : FeeStrategy) (count : Int) (samples : List FeeSample) : Option Int :=
  match (newestSamples count samples).map (·.fee) with
  | [] => none
  | newest :: older =>
      match strategy with
      | .latest => some newest
      | .greatest => some (older.foldl greater newest)
      | .average => some (total (newest :: older) / (older.length + 1))

/-- Ask the network for samples, and draw a fee from them. -/
def askRecentFee {ε : Type} (network : Network ε) (strategy : FeeStrategy) (count : Int)
    (accounts : List Key) : Client ε (Option Int) := do
  let samples ← Client.prioritizationFees network accounts
  return recentFee strategy count samples

end SolanaTransactions
