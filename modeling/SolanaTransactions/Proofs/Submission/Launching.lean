/-
Module: SolanaTransactions.Proofs.Submission.Launching
Purpose: Which flights submissions leave in the air, and whether these are sent again.
Main exports:
  World.SendsAgain, World.LeavesTime, World.Sound.sendsAgain_iff, exists_of_mem_flights_submitAll
-/
import SolanaTransactions.Proofs.Submission.SideBySide

namespace SolanaTransactions

/-!
An operation that stops does not stop its flights.  Whether one of them is sent
again afterwards can be told from the state in which it was left.  While its
confirmation is awaited, the flight itself tells it.  While its first send is under
way, the confirmation is not yet asked for, and how long that takes is told by the
network in the state in which the send ends.  When submissions side by side all
return, each of their flights has landed; when one of them fails, the others are
left as they are.
-/

variable {ε : Type} {network : Network ε}

/-! ### Sends after the end -/

namespace World

variable {world final before after : World ε} {number : Nat}

/-- Left to itself, a state leads to another send of a flight whose number is at least the given
one. -/
def SendsAgain (network : Network ε) (number : Nat) (world : World ε) : Prop :=
  ∃ ticks final, Passes network world ticks final ∧
    ∃ tick ∈ Tick.resending ticks, number ≤ tick.flight.number

/-- Let time pass until a flight takes the next step of all. -/
def untilTurn (network : Network ε) (number : Nat) (world : World ε) : World ε :=
  match taken : takeEarliest world.flights with
  | none => world
  | some (flight, others) =>
      have := tick_weight network world taken
      if flight.number = number then world
      else untilTurn network number (world.tick network flight others)
termination_by world.weight
decreasing_by assumption

/-- A flight has a try left, and its next send is due before the end of its confirmation.  While its
first send is under way, this send must be accepted and the confirmation must then take longer than
the interval. -/
def LeavesTime (network : Network ε) (world : World ε) (flight : Flight) : Prop :=
  0 < flight.retries ∧
    match flight.phase with
    | .departing _ (.error _) => False
    | .departing _ (.ok signature) =>
        elapsed flight.interval < elapsed (network.confirm signature flight.blockhash
          flight.commitment (world.untilTurn network flight.number).environment).1.seconds
    | .waiting nextSend ends _ => nextSend < ends

section

variable {first flight later : Flight} {others : List Flight}

theorem untilTurn_of_turn (taken : takeEarliest world.flights = some (flight, others)) :
    world.untilTurn network flight.number = world := by
  rw [untilTurn]
  split
  · rfl
  · next known =>
      obtain ⟨rfl, rfl⟩ := Prod.mk.inj (Option.some.inj (taken.symm.trans known))
      exact if_pos rfl

theorem untilTurn_of_other (taken : takeEarliest world.flights = some (first, others))
    (other : first.number ≠ number) :
    world.untilTurn network number =
      (world.tick network first others).untilTurn network number := by
  rw [untilTurn]
  split
  · next none =>
      rw [taken] at none
      contradiction
  · next known =>
      obtain ⟨rfl, rfl⟩ := Prod.mk.inj (Option.some.inj (taken.symm.trans known))
      exact if_neg other

theorem leavesTime_of_resends (resends : flight.resends = true) :
    world.LeavesTime network flight := by
  obtain ⟨nextSend, ends, landing, waits, more, inTime⟩ :=
    Flight.exists_of_move_resend (Flight.resends_iff.1 resends)
  rw [LeavesTime, waits]
  exact ⟨more, inTime⟩

theorem not_leavesTime_of_land {landing : Landing} (lands : flight.move = .land landing) :
    ¬world.LeavesTime network flight := by
  rintro ⟨more, inTime⟩
  split at inTime
  · exact inTime
  · next phase =>
      rw [Flight.move, phase] at lands
      contradiction
  · next waits =>
      rw [Flight.move_of_waiting waits, if_pos ⟨more, inTime⟩] at lands
      contradiction

/-- The steps of others make no difference to whether there will be time. -/
theorem leavesTime_tick_of_other (taken : takeEarliest world.flights = some (first, others))
    (other : first.number ≠ flight.number) :
    (world.tick network first others).LeavesTime network flight ↔
      world.LeavesTime network flight := by
  rw [LeavesTime, LeavesTime, untilTurn_of_other taken other]

/-- When a flight takes off, it is known whether there will be time. -/
theorem leavesTime_tick_of_takeOff {signature : Signature}
    (taken : takeEarliest world.flights = some (flight, others))
    (moves : flight.move = .takeOff signature) :
    (world.tick network flight others).LeavesTime network (flight.afterTakeOff signature
        (network.confirm signature flight.blockhash flight.commitment world.environment).1) ↔
      world.LeavesTime network flight := by
  obtain ⟨ends, departs⟩ := Flight.exists_of_move_takeOff moves
  simp only [LeavesTime, departs, untilTurn_of_turn taken, Flight.afterTakeOff, add_lt_add_iff_left]

end

/-- What is sent again while time passes had time for it at the start. -/
theorem Passes.exists_leavesTime {ticks : List Tick} (passes : Passes network world ticks final)
    (sound : world.Sound) {tick : Tick} (resent : tick ∈ Tick.resending ticks) :
    ∃ flight ∈ world.flights, flight.number = tick.flight.number ∧
      world.LeavesTime network flight := by
  obtain ⟨member, resends⟩ := List.mem_filter.1 resent
  induction passes with
  | rest => exact nomatch member
  | @step world _ first _ _ taken _ ih =>
      have inWorld := Sound.mem_of_taken taken
      rcases List.mem_cons.1 member with rfl | later
      · exact ⟨first, inWorld, rfl, leavesTime_of_resends resends⟩
      · obtain ⟨flight, inAfter, same, leaves⟩ :=
          ih (sound.tick network taken) (List.mem_filter.2 ⟨later, resends⟩) later
        rcases mem_flights_tick inAfter with inOthers | becomes
        · exact ⟨flight, Sound.mem_of_others taken inOthers, same, (leavesTime_tick_of_other taken
            (sound.number_ne_of_others taken inOthers)).1 leaves⟩
        · refine ⟨first, inWorld, (Flight.Continues.of_next becomes).number.trans same, ?_⟩
          rcases Flight.cases_next becomes with ⟨signature, moves, rfl⟩ | ⟨moves, _⟩
          · exact (leavesTime_tick_of_takeOff taken moves).1 leaves
          · exact leavesTime_of_resends (Flight.resends_iff.2 moves)

/-- A flight that has time for it is sent again before it has landed. -/
theorem Passes.exists_resent {ticks : List Tick} (passes : Passes network world ticks final)
    (sound : world.Sound) {flight : Flight} (member : flight ∈ world.flights)
    (leaves : world.LeavesTime network flight)
    (landed : ∀ other ∈ final.flights, other.number ≠ flight.number) :
    ∃ tick ∈ Tick.resending ticks, tick.flight.number = flight.number := by
  induction passes generalizing flight with
  | rest => exact absurd rfl (landed flight member)
  | step taken _ ih =>
      have soundAfter := sound.tick network taken
      rcases cases_tick network sound taken member with
        ⟨rfl, later, becomes, inAir⟩ | ⟨rfl, landing, lands, _⟩ | ⟨other, inAir⟩
      · rcases Flight.cases_next becomes with ⟨signature, moves, rfl⟩ | ⟨moves, _⟩
        · obtain ⟨tick, resent, same⟩ :=
            ih soundAfter inAir ((leavesTime_tick_of_takeOff taken moves).2 leaves) landed
          exact ⟨tick, Tick.resending_subset_cons resent, same⟩
        · exact ⟨_, List.mem_filter.2 ⟨List.mem_cons_self, Flight.resends_iff.2 moves⟩, rfl⟩
      · exact absurd leaves (not_leavesTime_of_land lands)
      · obtain ⟨tick, resent, same⟩ :=
          ih soundAfter inAir ((leavesTime_tick_of_other taken other).2 leaves) landed
        exact ⟨tick, Tick.resending_subset_cons resent, same⟩

/-- A state leads to another send exactly when one of its flights will have time for it. -/
theorem Sound.sendsAgain_iff (sound : world.Sound) :
    world.SendsAgain network number ↔
      ∃ flight ∈ world.flights, number ≤ flight.number ∧ world.LeavesTime network flight := by
  constructor
  · intro ⟨ticks, final, passes, tick, resent, fresh⟩
    obtain ⟨flight, inAir, same, leaves⟩ := passes.exists_leavesTime sound resent
    exact ⟨flight, inAir, same ▸ fresh, leaves⟩
  · intro ⟨flight, inAir, fresh, leaves⟩
    obtain ⟨ticks, landing, passes, _, landed, _⟩ :=
      world.exists_passes_settle network sound inAir
    obtain ⟨tick, resent, same⟩ := passes.exists_resent sound inAir leaves fun other inFinal =>
      (passes.sound sound).number_ne_of_landed inFinal landed
    exact ⟨ticks, _, passes, tick, resent, same ▸ fresh⟩

/-- When nothing may begin, everything in the air was there before. -/
theorem Begun.exists_of_mem_flights (begun : Begun (fun _ => False) before after)
    {flight : Flight} (member : flight ∈ after.flights) :
    ∃ old ∈ before.flights, old.number = flight.number := by
  rcases begun.flights flight member with ⟨old, inAir, same⟩ | ⟨_, never⟩
  · exact ⟨old, inAir, same.number⟩
  · exact never.elim

end World

/-! ### Submissions -/

namespace Submission

variable {scheme : SignatureScheme} {submission : Submission}

end Submission

variable {scheme : SignatureScheme} {submissions : List Submission} {numbers : List Nat}
  {receipts : List Receipt} {world after : World ε}

/-- When submissions side by side have all begun, the new flights are those that they know. -/
theorem exists_of_mem_flights_launched (sound : world.Sound)
    (launched : (submissions.mapM (Submission.launchBeside scheme network)).runFrom world =
      (.ok numbers, after)) :
    after.Sound ∧ ∀ flight ∈ after.flights,
      (∃ old ∈ world.flights, old.number = flight.number) ∨ flight.number ∈ numbers := by
  obtain ⟨_, begun, ran, counts, _⟩ := exists_allBegun scheme network submissions world
  obtain ⟨same, rfl⟩ := Prod.mk.inj (launched.symm.trans ran)
  obtain rfl := Except.ok.inj same
  obtain ⟨_, chronicle⟩ := (Submission.mapM_launchBeside_chronicled (fun _ => True) scheme network
    fun _ _ => trivial).leads launched sound
  refine ⟨chronicle.sound, fun flight member => ?_⟩
  rcases chronicle.flights flight member with ⟨old, inWorld, same⟩ | ⟨fresh, _⟩
  · exact Or.inl ⟨old, inWorld, same.number⟩
  · exact Or.inr (List.mem_range'_1.2 ⟨fresh, counts ▸ chronicle.sound.number_lt member⟩)

/-- Flights whose receipts are there have landed: what is in the air was so before, and it is not one
of them. -/
theorem exists_of_mem_flights_awaitReceipts (sound : world.Sound)
    (returned : (awaitReceipts network numbers).runFrom world = (.ok receipts, after)) :
    ∀ flight ∈ after.flights, (∃ old ∈ world.flights, old.number = flight.number) ∧
      flight.number ∉ numbers := by
  obtain ⟨ticks, passes⟩ := world.passes_settle network numbers sound
  obtain ⟨rfl, fine, _⟩ := of_runFrom_awaitReceipts_ok returned
  intro flight member
  obtain ⟨old, inAir, continues⟩ := passes.exists_of_mem_flights member
  exact ⟨⟨old, inAir, continues.number⟩,
    World.settled network numbers world fine flight member⟩

/-- Submissions side by side that all return have landed: what is in the air was so before. -/
theorem exists_of_mem_flights_submitAll (sound : world.Sound)
    (returned : (submitAll scheme network submissions).runFrom world = (.ok receipts, after)) :
    ∀ flight ∈ after.flights, ∃ old ∈ world.flights, old.number = flight.number := by
  obtain ⟨numbers, begun, launched, awaited⟩ := Client.runFrom_bind_eq_ok.1 returned
  obtain ⟨soundBegun, known⟩ := exists_of_mem_flights_launched sound launched
  intro flight member
  obtain ⟨⟨middle, inBegun, same⟩, landed⟩ :=
    exists_of_mem_flights_awaitReceipts soundBegun awaited flight member
  rcases known middle inBegun with old | own
  · exact same ▸ old
  · exact absurd (same ▸ own) landed

end SolanaTransactions
