/-
Module: SolanaTransactions.Time
Purpose: Points in time and spans of time, in seconds.
Main exports: later, elapsed
-/

namespace SolanaTransactions

/-- The later one of two points in time. -/
def later (first second : Rat) : Rat := if first ≤ second then second else first

/-- The time that a span takes: no time at all when it is negative. -/
def elapsed (seconds : Rat) : Rat := later 0 seconds

end SolanaTransactions
