/-
Module: SolanaTransactions.Proofs.Client.Flight
Purpose: What the next step of a flight is, and what it leaves of the flight.
Main exports:
  Flight.lands_or_goesOn, Flight.cases_next, Flight.due_le_due_next, Flight.Awaits,
  Flight.Continues, Flight.Continues.of_next
-/
import Mathlib.Algebra.Order.Ring.Rat
import Mathlib.Tactic.Linarith
import SolanaTransactions.Client.World

namespace SolanaTransactions

variable {ε : Type}

theorem later_eq_max (first second : Rat) : later first second = max first second :=
  (max_def first second).symm

theorem elapsed_nonneg (seconds : Rat) : 0 ≤ elapsed seconds := by
  rw [elapsed, later_eq_max]
  exact le_max_left _ _

namespace Flight

variable {network : Network ε} {flight later : Flight} {environment : ε}
  {nextSend ends : Rat} {landing : Landing}

/-! ### The next step -/

theorem resends_iff : flight.resends = true ↔ flight.move = .resend := by
  rw [resends]
  split
  · next moves => simp [moves]
  · next other => simpa using other

theorem next_of_land (lands : flight.move = .land landing) :
    flight.next network environment = (.inl landing, environment) := by
  rw [next, lands]

/-- In its next step a flight lands, or it goes on. -/
theorem lands_or_goesOn (network : Network ε) (flight : Flight) (environment : ε) :
    (∃ landing, flight.move = .land landing) ∨
      ∃ later, (flight.next network environment).1 = .inr later := by
  cases moves : flight.move with
  | takeOff signature =>
      rw [next, moves]
      exact Or.inr ⟨_, rfl⟩
  | resend =>
      rw [next, moves]
      exact Or.inr ⟨_, rfl⟩
  | land landing => exact Or.inl ⟨landing, rfl⟩

/-- A flight that goes on has taken off or sent again. -/
theorem cases_next (goesOn : (flight.next network environment).1 = .inr later) :
    (∃ signature, flight.move = .takeOff signature ∧
        later = flight.afterTakeOff signature
          (network.confirm signature flight.blockhash flight.commitment environment).1) ∨
      flight.move = .resend ∧
        later =
          flight.afterResend (network.send flight.raw flight.options environment).1.seconds := by
  cases moves : flight.move with
  | takeOff signature =>
      rw [next, moves] at goesOn
      exact Or.inl ⟨signature, rfl, (Sum.inr.inj goesOn).symm⟩
  | resend =>
      rw [next, moves] at goesOn
      exact Or.inr ⟨rfl, (Sum.inr.inj goesOn).symm⟩
  | land landing =>
      rw [next_of_land moves] at goesOn
      contradiction

/-- A flight whose first send is under way sends nothing else in its next step. -/
theorem event_ne_sent_of_departing {reply : Except Fault Signature}
    (departs : flight.phase = .departing ends reply) (raw : Bytes) (options : SendOptions) :
    flight.event ≠ .sent raw options := by
  rw [event, move, departs]
  cases reply with
  | ok signature => exact nofun
  | error fault => exact nofun

/-! ### While the confirmation is awaited -/

theorem move_of_waiting (waits : flight.phase = .waiting nextSend ends landing) :
    flight.move = if 0 < flight.retries ∧ nextSend < ends then .resend else .land landing := by
  rw [move, waits]

theorem due_of_waiting (waits : flight.phase = .waiting nextSend ends landing) :
    flight.due = if flight.resends then nextSend else ends := by
  rw [due, waits]

theorem due_of_resend (waits : flight.phase = .waiting nextSend ends landing)
    (resends : flight.resends = true) : flight.due = nextSend :=
  (due_of_waiting waits).trans (if_pos resends)

theorem phase_afterResend (waits : flight.phase = .waiting nextSend ends landing)
    (seconds : Rat) : (flight.afterResend seconds).phase =
      .waiting (nextSend + elapsed seconds + elapsed flight.interval) ends landing := by
  simp only [afterResend, waits]

/-- What waits for its next send and for an end is due then at the earliest. -/
theorem le_due_of_waiting (waits : flight.phase = .waiting nextSend ends landing) {time : Rat}
    (send : time ≤ nextSend) (stop : time ≤ ends) : time ≤ flight.due := by
  rw [due_of_waiting waits]
  split
  · exact send
  · exact stop

/-- A flight that goes on is not due before. -/
theorem due_le_due_next (goesOn : (flight.next network environment).1 = .inr later) :
    flight.due ≤ later.due := by
  have pause := elapsed_nonneg flight.interval
  rcases cases_next goesOn with ⟨signature, _, rfl⟩ | ⟨moves, rfl⟩
  · have wait := elapsed_nonneg
      (network.confirm signature flight.blockhash flight.commitment environment).1.seconds
    refine le_due_of_waiting rfl ?_ ?_
    · linarith
    · linarith
  · obtain ⟨nextSend, ends, landing, waits, _, inTime⟩ := exists_of_move_resend moves
    have send := elapsed_nonneg (network.send flight.raw flight.options environment).1.seconds
    rw [due_of_resend waits (resends_iff.2 moves)]
    refine le_due_of_waiting (phase_afterResend waits _) ?_ ?_
    · linarith
    · exact le_of_lt inTime

/-! ### From one step to the next -/

/-- The confirmation is awaited, and the flight will land with it. -/
def Awaits (flight : Flight) (landing : Landing) : Prop :=
  ∃ nextSend ends, flight.phase = .waiting nextSend ends landing

theorem Awaits.eq_of_land {own : Landing} (awaits : flight.Awaits own)
    (lands : flight.move = .land landing) : landing = own := by
  obtain ⟨nextSend, ends, waits⟩ := awaits
  rw [move_of_waiting waits] at lands
  split at lands
  · contradiction
  · exact (Move.land.inj lands).symm

/-- A flight is an earlier one, perhaps some steps later. -/
structure Continues (earlier later : Flight) : Prop where
  number : earlier.number = later.number
  raw : earlier.raw = later.raw
  awaits : ∀ landing, earlier.Awaits landing → later.Awaits landing

namespace Continues

variable {earlier between : Flight}

theorem refl (flight : Flight) : flight.Continues flight := ⟨rfl, rfl, fun _ awaits => awaits⟩

theorem trans (first : earlier.Continues between) (second : between.Continues later) :
    earlier.Continues later :=
  ⟨first.number.trans second.number, first.raw.trans second.raw,
    fun landing awaits => second.awaits landing (first.awaits landing awaits)⟩

theorem of_next (goesOn : (flight.next network environment).1 = .inr later) :
    flight.Continues later := by
  rcases cases_next goesOn with ⟨signature, moves, rfl⟩ | ⟨_, rfl⟩
  · refine ⟨rfl, rfl, fun landing ⟨_, _, waits⟩ => ?_⟩
    obtain ⟨_, departs⟩ := exists_of_move_takeOff moves
    rw [waits] at departs
    contradiction
  · exact ⟨rfl, rfl, fun landing ⟨_, _, waits⟩ => ⟨_, _, phase_afterResend waits _⟩⟩

end Continues

end Flight

end SolanaTransactions
