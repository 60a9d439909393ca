/-
Module: SolanaTransactions.Proofs.Client.Settling
Purpose: What is known once some flights have been waited for.
Main exports:
  World.settled, World.Sound.landing?_of_landed, World.exists_passes_settle,
  World.exists_landing_settle, World.exists_failing_settle, World.now_advance
-/
import SolanaTransactions.Proofs.Client.Course

namespace SolanaTransactions

/-!
A wait ends when every flight that is waited for has landed, or when one of them
has landed with a fault.  As every number is that of one flight, the landings of
a state tell what became of each of them.
-/

variable {ε : Type}

namespace World

variable {network : Network ε} {world : World ε}

/-- The wait for some flights ends when one of them has failed or none is in the air. -/
theorem settled (network : Network ε) (awaited : List Nat) (world : World ε)
    (fine : (world.settle network awaited).faultAmong awaited = none) :
    ∀ flight ∈ (world.settle network awaited).flights, flight.number ∉ awaited := by
  fun_induction settle network awaited world with
  | case1 world _ none =>
      rw [takeEarliest_eq_none_iff.1 none]
      exact List.forall_mem_nil _
  | case2 world _ flight others taken _ ih => exact ih fine
  | case3 world stop =>
      intro flight member inAwaited
      refine stop ?_
      rw [fine, Option.isNone_none, Bool.true_and, List.any_eq_true]
      exact ⟨flight, member, List.contains_iff_mem.2 inAwaited⟩

theorem exists_of_faultAmong_eq_some {awaited : List Nat} {fault : Fault}
    (found : world.faultAmong awaited = some fault) :
    ∃ number ∈ awaited, ∃ landing, (number, landing) ∈ world.landed ∧
      landing.outcome = .error fault := by
  obtain ⟨⟨number, signature, outcome⟩, member, faulty⟩ := List.exists_of_findSome?_eq_some found
  cases outcome with
  | ok _ => contradiction
  | error cause =>
      obtain ⟨inAwaited, same⟩ := Option.ite_none_right_eq_some.1 faulty
      obtain rfl := Option.some.inj same
      exact ⟨number, List.contains_iff_mem.1 inAwaited, _, member, rfl⟩

theorem outcome_of_faultAmong_eq_none {awaited : List Nat} {number : Nat} {landing : Landing}
    (inAwaited : number ∈ awaited) (fine : world.faultAmong awaited = none)
    (landed : (number, landing) ∈ world.landed) :
    ∃ confirmation, landing.outcome = .ok confirmation := by
  have absent := List.findSome?_eq_none_iff.1 fine _ landed
  cases outcome : landing.outcome with
  | ok confirmation => exact ⟨confirmation, rfl⟩
  | error fault =>
      simp only [outcome] at absent
      rw [if_pos (List.contains_iff_mem.2 inAwaited)] at absent
      contradiction

theorem Sound.landing?_of_landed (sound : world.Sound) {number : Nat} {landing : Landing}
    (landed : (number, landing) ∈ world.landed) : world.landing? number = some landing := by
  obtain ⟨before, after, split⟩ := List.append_of_mem landed
  have distinct := (List.nodup_append.1 sound.distinct).2.1
  rw [split, List.map_append, List.map_cons] at distinct
  rw [landing?, split, List.lookup_append, List.lookup_eq_none_iff.2, Option.none_or,
    List.lookup_cons_self]
  rintro ⟨other, ending⟩ member
  rw [bne_iff_ne]
  rintro rfl
  exact (List.nodup_append.1 distinct).2.2 _ (List.mem_map_of_mem member) _
    List.mem_cons_self rfl

/-- A flight that is in the air has not failed. -/
theorem Sound.faultAmong_of_flying (sound : world.Sound) {flight : Flight}
    (member : flight ∈ world.flights) : world.faultAmong [flight.number] = none := by
  cases found : world.faultAmong [flight.number] with
  | none => rfl
  | some fault =>
      obtain ⟨number, inAwaited, landing, landed, _⟩ := exists_of_faultAmong_eq_some found
      exact absurd (List.mem_singleton.1 inAwaited).symm (sound.number_ne_of_landed member landed)

/-- When a flight is awaited, it has landed in the end, after all of its course. -/
theorem exists_passes_settle (network : Network ε) (sound : world.Sound) {flight : Flight}
    (member : flight ∈ world.flights) :
    ∃ ticks landing, Passes network world ticks (world.settle network [flight.number]) ∧
      flight.Course network (Tick.ofNumber flight.number ticks) none ∧
      (flight.number, landing) ∈ (world.settle network [flight.number]).landed ∧
      ∀ own, flight.Awaits own → landing = own := by
  obtain ⟨ticks, passes⟩ := passes_settle network [flight.number] sound
  have soundAfter := passes.sound sound
  obtain ⟨left, course, ends⟩ := passes.course sound member
  cases left with
  | none =>
      obtain ⟨tick, inOwn, ⟨landing, lands⟩, same⟩ := course.leaves
      have landed := passes.landed_of_mem_ticks (List.mem_of_mem_filter inOwn) lands
      rw [← same.number] at landed
      exact ⟨ticks, landing, passes, course, landed, fun own awaits =>
        (same.awaits own awaits).eq_of_land lands⟩
  | some later =>
      -- A flight in the air keeps the wait going, as no fault is that of its number.
      have number := course.number_eq later rfl
      have fine := soundAfter.faultAmong_of_flying (ends later rfl)
      rw [number] at fine
      exact absurd (List.mem_singleton.2 number)
        (settled network [flight.number] world fine later (ends later rfl))

/-- There is no wait when one of the flights has failed already. -/
theorem settle_of_fault (network : Network ε) {awaited : List Nat} {fault : Fault}
    (failed : world.faultAmong awaited = some fault) : world.settle network awaited = world := by
  rw [settle, if_neg]
  rw [failed]
  exact Bool.false_ne_true

/-- When there is a fault after a step and there was none before it, the flight of the step has
failed. -/
theorem landed_of_faultAmong_tick {awaited : List Nat} {fault : Fault} {flight : Flight}
    {others : List Flight} (fine : world.faultAmong awaited = none)
    (failed : (world.tick network flight others).faultAmong awaited = some fault) :
    ∃ signature, flight.number ∈ awaited ∧ flight.move = .land ⟨signature, .error fault⟩ := by
  obtain ⟨number, awaits, ⟨signature, _⟩, landed, rfl⟩ := exists_of_faultAmong_eq_some failed
  rcases flight.lands_or_goesOn network world.environment with ⟨landing, lands⟩ | ⟨goesOn, becomes⟩
  · rw [tick_of_land lands] at landed
    rcases List.mem_append.1 landed with old | new
    · obtain ⟨_, ok⟩ := outcome_of_faultAmong_eq_none awaits fine old
      contradiction
    · obtain ⟨rfl, rfl⟩ := Prod.mk.inj (List.mem_singleton.1 new)
      exact ⟨signature, awaits, lands⟩
  · rw [tick_of_next becomes] at landed
    obtain ⟨_, ok⟩ := outcome_of_faultAmong_eq_none awaits fine landed
    contradiction

/-- The wait for some flights is over with the step in which one of them fails, if none has failed
before. -/
theorem exists_failing_settle (network : Network ε) {awaited : List Nat} {fault : Fault}
    (sound : world.Sound) (fine : world.faultAmong awaited = none)
    (failed : (world.settle network awaited).faultAmong awaited = some fault) :
    ∃ ticks last signature, Passes network world (ticks ++ [last]) (world.settle network awaited) ∧
      last.flight.number ∈ awaited ∧ last.flight.move = .land ⟨signature, .error fault⟩ ∧
      ∀ tick ∈ ticks, tick.flight.number ∈ awaited → ∀ signature cause,
        tick.flight.move ≠ .land ⟨signature, .error cause⟩ := by
  fun_induction settle network awaited world with
  | case1 world _ none =>
      rw [fine] at failed
      contradiction
  | case2 world _ first others taken _ ih =>
      have soundAfter := sound.tick network taken
      cases found : (world.tick network first others).faultAmong awaited with
      | some cause =>
          have stops : (world.tick network first others).settle network awaited =
              world.tick network first others := settle_of_fault network found
          rw [stops] at failed ⊢
          obtain ⟨signature, awaits, lands⟩ := landed_of_faultAmong_tick fine failed
          exact ⟨[], ⟨first, _⟩, signature, .step taken (passes_nothing soundAfter), awaits, lands,
            List.forall_mem_nil _⟩
      | none =>
          obtain ⟨ticks, last, signature, passes, awaits, lands, before⟩ :=
            ih soundAfter found failed
          refine ⟨_ :: ticks, last, signature, .step taken passes, awaits, lands,
            List.forall_mem_cons.2 ⟨fun awaits signature cause lands => ?_, before⟩⟩
          obtain ⟨_, ok⟩ := outcome_of_faultAmong_eq_none awaits found (landed_of_tick lands)
          contradiction
  | case3 world stop =>
      rw [fine] at failed
      contradiction

end World

end SolanaTransactions
