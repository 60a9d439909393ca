/-
Module: SolanaTransactions.Proofs.Client.Trace
Purpose: What has happened stays in the trace, as time passes and as operations go on.
Main exports:
  World.trace_tick, World.trace_prefix_advance, World.trace_prefix_settle, Client.Grows,
  Client.Grows.bind, runFrom_awaitReceipts, of_runFrom_awaitReceipts_ok
-/
import Mathlib.Data.List.Infix
import SolanaTransactions.Proofs.Client.Moves
import SolanaTransactions.Submission

namespace SolanaTransactions

variable {ε : Type}

namespace World

variable (network : Network ε) (world : World ε)

/-- One step of a flight is one event, at the time of the step. -/
theorem trace_tick (flight : Flight) (others : List Flight) :
    (world.tick network flight others).trace =
      world.trace ++ [⟨later world.now flight.due, flight.event⟩] := by
  simp only [tick]
  split
  · rfl
  · rfl

theorem trace_prefix_tick (flight : Flight) (others : List Flight) :
    world.trace <+: (world.tick network flight others).trace := by
  rw [trace_tick]
  exact List.prefix_append _ _

theorem trace_prefix_advance (target : Rat) :
    world.trace <+: (world.advance network target).trace := by
  fun_induction advance network target world with
  | case1 => exact List.prefix_refl _
  | case2 world flight others _ _ _ ih =>
      exact (trace_prefix_tick network world flight others).trans ih
  | case3 => exact List.prefix_refl _

theorem trace_prefix_settle (awaited : List Nat) :
    world.trace <+: (world.settle network awaited).trace := by
  fun_induction settle network awaited world with
  | case1 => exact List.prefix_refl _
  | case2 world _ flight others _ _ ih =>
      exact (trace_prefix_tick network world flight others).trans ih
  | case3 => exact List.prefix_refl _

theorem trace_prefix_depart (flight : Flight) :
    world.trace <+: (world.depart network flight).trace := by
  simp only [depart]
  split
  · exact trace_prefix_tick network { world with nextNumber := world.nextNumber + 1 } flight _
  · exact List.prefix_refl _

/-- What has happened in a state has happened in a later one as well. -/
abbrev TracePrefix (before after : World ε) : Prop := before.trace <+: after.trace

instance : IsPreorder (World ε) TracePrefix where
  refl _ := List.prefix_refl _
  trans _ _ _ first second := first.trans second

end World

namespace Client

variable {α β : Type}

/-- An operation takes nothing back that has happened before it. -/
def Grows (operation : Client ε α) : Prop :=
  ∀ world, world.trace <+: (operation.runFrom world).2.trace

namespace Grows

theorem pure (value : α) : Grows (pure value : Client ε α) :=
  fun _ => List.prefix_refl _

theorem throw (fault : Fault) : Grows (throw fault : Client ε α) :=
  fun _ => List.prefix_refl _

theorem ofExcept (outcome : Except Fault α) : Grows (ofExcept outcome : Client ε α) :=
  fun _ => List.prefix_refl _

theorem bind {operation : Client ε α} {next : α → Client ε β} (first : operation.Grows)
    (later : ∀ value, (next value).Grows) : (operation >>= next).Grows :=
  @Moves.bind _ _ _ World.TracePrefix _ _ _ first later

theorem askTimed (reply : ε → Timed α × ε) : (askTimed reply).Grows :=
  fun _ => List.prefix_refl _

theorem depart (network : Network ε) (flight : Nat → Rat → Flight) :
    (depart network flight).Grows :=
  fun world => world.trace_prefix_depart network _

theorem wait (network : Network ε) (seconds : Rat) : (wait network seconds).Grows :=
  fun world => world.trace_prefix_advance network _

end Grows

end Client

/-- Awaiting flights lets time pass until they have landed, and then makes out what became of them. -/
theorem runFrom_awaitReceipts (network : Network ε) (numbers : List Nat) (world : World ε) :
    (awaitReceipts network numbers).runFrom world =
      let later := world.settle network numbers
      (match later.faultAmong numbers with
        | some fault => .error fault
        | none => .ok (numbers.filterMap fun number =>
            (later.landing? number).bind Landing.receipt?), later) := by
  simp only [Client.runFrom, awaitReceipts, ExceptT.run_mk, StateT.run]
  cases (world.settle network numbers).faultAmong numbers with
  | some fault => rfl
  | none => rfl

/-- Receipts are there when no flight has failed, and each is that of a landing. -/
theorem of_runFrom_awaitReceipts_ok {network : Network ε} {numbers : List Nat}
    {receipts : List Receipt} {world after : World ε}
    (returned : (awaitReceipts network numbers).runFrom world = (.ok receipts, after)) :
    after = world.settle network numbers ∧ after.faultAmong numbers = none ∧
      receipts = numbers.filterMap fun number =>
        (after.landing? number).bind Landing.receipt? := by
  rw [runFrom_awaitReceipts] at returned
  obtain ⟨outcome, rfl⟩ := Prod.mk.inj returned
  cases found : (world.settle network numbers).faultAmong numbers with
  | some fault =>
      rw [found] at outcome
      contradiction
  | none =>
      rw [found] at outcome
      exact ⟨rfl, rfl, (Except.ok.inj outcome).symm⟩

theorem of_runFrom_awaitReceipts_error {network : Network ε} {numbers : List Nat} {fault : Fault}
    {world after : World ε}
    (stopped : (awaitReceipts network numbers).runFrom world = (.error fault, after)) :
    after = world.settle network numbers ∧ after.faultAmong numbers = some fault := by
  rw [runFrom_awaitReceipts] at stopped
  obtain ⟨outcome, rfl⟩ := Prod.mk.inj stopped
  cases found : (world.settle network numbers).faultAmong numbers with
  | some cause =>
      rw [found] at outcome
      exact ⟨rfl, congrArg some (Except.error.inj outcome)⟩
  | none =>
      rw [found] at outcome
      contradiction

theorem grows_awaitReceipts (network : Network ε) (numbers : List Nat) :
    (awaitReceipts network numbers).Grows := by
  intro world
  rw [runFrom_awaitReceipts]
  exact world.trace_prefix_settle network numbers

end SolanaTransactions
