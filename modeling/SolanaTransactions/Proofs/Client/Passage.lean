/-
Module: SolanaTransactions.Proofs.Client.Passage
Purpose: Time that passes, as the steps that the flights take in it.
Main exports:
  World.Sound, Tick, World.Passes, World.passes_settle, World.passes_advance,
  World.exists_passes_depart, World.Passes.sound, World.Passes.trace_eq, Flight.Course,
  World.Passes.course
-/
import Mathlib.Data.List.Nodup
import Mathlib.Data.List.Perm.Basic
import SolanaTransactions.Proofs.Client.Flight
import SolanaTransactions.Proofs.Client.Trace

namespace SolanaTransactions

/-!
The clock moves from one step of a flight to the next, so what happens while time
passes is told by the list of these steps.  The steps of one flight make up its
course: it takes off unless it is in the air already, it is sent again some times,
and then it lands.  Both facts rest on an invariant of the state, by which no
flight is late and no number is used twice.
-/

variable {ε : Type}

/-! ### The earliest flight -/

namespace World

theorem takeEarliest_eq_none_iff {flights : List Flight} :
    takeEarliest flights = none ↔ flights = [] := by
  cases flights with
  | nil => simp [takeEarliest]
  | cons flight rest =>
      rw [takeEarliest]
      split
      · simp
      · split <;> simp

theorem perm_of_takeEarliest {flights others : List Flight} {earliest : Flight}
    (taken : takeEarliest flights = some (earliest, others)) :
    flights.Perm (earliest :: others) := by
  induction flights generalizing earliest others with
  | nil => simp [takeEarliest] at taken
  | cons flight rest ih =>
      rw [takeEarliest] at taken
      split at taken
      · obtain ⟨rfl, rfl⟩ := Prod.mk.inj (Option.some.inj taken)
        exact .refl _
      · next inner left found =>
          split at taken
          · obtain ⟨rfl, rfl⟩ := Prod.mk.inj (Option.some.inj taken)
            exact ((ih found).cons flight).trans (.swap _ _ _)
          · obtain ⟨rfl, rfl⟩ := Prod.mk.inj (Option.some.inj taken)
            exact .refl _

theorem due_le_of_takeEarliest {flights others : List Flight} {earliest : Flight}
    (taken : takeEarliest flights = some (earliest, others)) :
    ∀ flight ∈ flights, earliest.due ≤ flight.due := by
  induction flights generalizing earliest others with
  | nil => simp [takeEarliest] at taken
  | cons flight rest ih =>
      rw [takeEarliest] at taken
      split at taken
      · next none =>
          obtain ⟨rfl, rfl⟩ := Prod.mk.inj (Option.some.inj taken)
          rw [takeEarliest_eq_none_iff.1 none]
          exact List.forall_mem_singleton.2 (le_refl _)
      · next inner left found =>
          split at taken
          · next before =>
              obtain ⟨rfl, rfl⟩ := Prod.mk.inj (Option.some.inj taken)
              exact List.forall_mem_cons.2 ⟨le_of_lt before, ih found⟩
          · next notBefore =>
              obtain ⟨rfl, rfl⟩ := Prod.mk.inj (Option.some.inj taken)
              refine List.forall_mem_cons.2 ⟨le_refl _, fun other member => ?_⟩
              exact (not_lt.1 notBefore).trans (ih found other member)

end World

/-! ### One step -/

namespace World

variable {network : Network ε} {world : World ε}

/-- The numbers of all flights that there are and were. -/
def numbers (world : World ε) : List Nat :=
  world.flights.map (·.number) ++ world.landed.map (·.1)

/-- No flight is late, and every number is that of one flight. -/
structure Sound (world : World ε) : Prop where
  punctual : ∀ flight ∈ world.flights, world.now ≤ flight.due
  distinct : world.numbers.Nodup
  below : ∀ number ∈ world.numbers, number < world.nextNumber

theorem sound_start (environment : ε) : (start environment).Sound :=
  ⟨fun _ none => (nomatch none), List.nodup_nil, fun _ none => (nomatch none)⟩

theorem tick_of_land {flight : Flight} {others : List Flight} {landing : Landing}
    (lands : flight.move = .land landing) :
    world.tick network flight others =
      { environment := world.environment
        now := later world.now flight.due
        trace := world.trace ++ [⟨later world.now flight.due, flight.event⟩]
        flights := others
        landed := world.landed ++ [(flight.number, landing)]
        nextNumber := world.nextNumber } := by
  simp only [tick, record, Flight.next_of_land lands]

theorem tick_of_next {flight goesOn : Flight} {others : List Flight}
    (becomes : (flight.next network world.environment).1 = .inr goesOn) :
    world.tick network flight others =
      { environment := (flight.next network world.environment).2
        now := later world.now flight.due
        trace := world.trace ++ [⟨later world.now flight.due, flight.event⟩]
        flights := others ++ [goesOn]
        landed := world.landed
        nextNumber := world.nextNumber } := by
  simp only [tick, record, becomes]

theorem now_tick (flight : Flight) (others : List Flight) :
    (world.tick network flight others).now = later world.now flight.due := by
  rcases flight.lands_or_goesOn network world.environment with ⟨landing, lands⟩ | ⟨goesOn, becomes⟩
  · rw [tick_of_land lands]
  · rw [tick_of_next becomes]

theorem nextNumber_tick (flight : Flight) (others : List Flight) :
    (world.tick network flight others).nextNumber = world.nextNumber := by
  rcases flight.lands_or_goesOn network world.environment with ⟨landing, lands⟩ | ⟨goesOn, becomes⟩
  · rw [tick_of_land lands]
  · rw [tick_of_next becomes]

theorem landed_of_tick {flight : Flight} {others : List Flight} {landing : Landing}
    (lands : flight.move = .land landing) :
    (flight.number, landing) ∈ (world.tick network flight others).landed := by
  rw [tick_of_land lands]
  exact List.mem_append_right _ (List.mem_singleton_self _)

theorem landed_subset_tick (flight : Flight) (others : List Flight) :
    world.landed ⊆ (world.tick network flight others).landed := by
  rcases flight.lands_or_goesOn network world.environment with ⟨landing, lands⟩ | ⟨goesOn, becomes⟩
  · rw [tick_of_land lands]
    exact List.subset_append_left _ _
  · rw [tick_of_next becomes]
    exact List.Subset.refl _

theorem numbers_tick_perm (network : Network ε) {flight : Flight} {others : List Flight}
    (taken : takeEarliest world.flights = some (flight, others)) :
    (world.tick network flight others).numbers.Perm world.numbers := by
  have before := ((perm_of_takeEarliest taken).map (·.number)).append_right
    (world.landed.map (·.1))
  refine List.Perm.trans ?_ before.symm
  rcases flight.lands_or_goesOn network world.environment with ⟨landing, lands⟩ | ⟨goesOn, becomes⟩
  · rw [tick_of_land lands, numbers, List.map_append, ← List.append_assoc]
    exact List.perm_append_singleton flight.number _
  · rw [tick_of_next becomes, numbers, List.map_append, List.map_singleton,
      ← (Flight.Continues.of_next becomes).number]
    exact (List.perm_append_singleton flight.number (others.map (·.number))).append_right _

theorem mem_flights_tick {flight other : Flight} {others : List Flight}
    (member : other ∈ (world.tick network flight others).flights) :
    other ∈ others ∨ (flight.next network world.environment).1 = .inr other := by
  rcases flight.lands_or_goesOn network world.environment with ⟨landing, lands⟩ | ⟨goesOn, becomes⟩
  · rw [tick_of_land lands] at member
    exact Or.inl member
  · rw [tick_of_next becomes] at member
    rcases List.mem_append.1 member with inOthers | new
    · exact Or.inl inOthers
    · rw [List.mem_singleton.1 new]
      exact Or.inr becomes

theorem mem_flights_tick_of_mem_others {flight other : Flight} {others : List Flight}
    (member : other ∈ others) : other ∈ (world.tick network flight others).flights := by
  rcases flight.lands_or_goesOn network world.environment with ⟨landing, lands⟩ | ⟨goesOn, becomes⟩
  · rw [tick_of_land lands]
    exact member
  · rw [tick_of_next becomes]
    exact List.mem_append_left _ member

namespace Sound

theorem later_now_due (sound : world.Sound) {flight : Flight} (member : flight ∈ world.flights) :
    later world.now flight.due = flight.due := by
  rw [later_eq_max, max_eq_right (sound.punctual flight member)]

theorem mem_of_taken {flight : Flight} {others : List Flight}
    (taken : takeEarliest world.flights = some (flight, others)) : flight ∈ world.flights :=
  (perm_of_takeEarliest taken).mem_iff.2 List.mem_cons_self

theorem mem_of_others {flight other : Flight} {others : List Flight}
    (taken : takeEarliest world.flights = some (flight, others)) (member : other ∈ others) :
    other ∈ world.flights :=
  (perm_of_takeEarliest taken).mem_iff.2 (List.mem_cons_of_mem _ member)

/-- The other flights have other numbers. -/
theorem number_ne_of_others (sound : world.Sound) {flight other : Flight} {others : List Flight}
    (taken : takeEarliest world.flights = some (flight, others)) (member : other ∈ others) :
    flight.number ≠ other.number := by
  have distinct := (List.nodup_append.1 sound.distinct).1
  rw [((perm_of_takeEarliest taken).map (·.number)).nodup_iff] at distinct
  intro same
  exact (List.nodup_cons.1 distinct).1 (List.mem_map.2 ⟨other, member, same.symm⟩)

theorem tick (network : Network ε) (sound : world.Sound) {flight : Flight}
    {others : List Flight} (taken : takeEarliest world.flights = some (flight, others)) :
    (world.tick network flight others).Sound := by
  have member := mem_of_taken taken
  have numbers := numbers_tick_perm network taken
  refine ⟨fun other inFlights => ?_, numbers.nodup_iff.2 sound.distinct, fun number used => ?_⟩
  · rw [now_tick, sound.later_now_due member]
    rcases mem_flights_tick inFlights with inOthers | becomes
    · exact due_le_of_takeEarliest taken other (mem_of_others taken inOthers)
    · exact Flight.due_le_due_next becomes
  · rw [nextNumber_tick]
    exact sound.below number (numbers.mem_iff.1 used)

/-- Flights of one number are one flight. -/
theorem eq_of_number_eq (sound : world.Sound) {flight other : Flight}
    (member : flight ∈ world.flights) (memberOther : other ∈ world.flights)
    (same : flight.number = other.number) : flight = other := by
  have distinct := (List.nodup_append.1 sound.distinct).1
  exact List.inj_on_of_nodup_map distinct member memberOther same

/-- A flight that has landed is not in the air. -/
theorem number_ne_of_landed (sound : world.Sound) {flight : Flight}
    (member : flight ∈ world.flights) {number : Nat} {landing : Landing}
    (landed : (number, landing) ∈ world.landed) : flight.number ≠ number :=
  (List.nodup_append.1 sound.distinct).2.2 _ (List.mem_map_of_mem member) _
    (List.mem_map_of_mem landed)

theorem number_lt (sound : world.Sound) {flight : Flight} (member : flight ∈ world.flights) :
    flight.number < world.nextNumber :=
  sound.below _ (List.mem_append_left _ (List.mem_map_of_mem member))

/-- A flight with the next number may begin, at any place among the others. -/
theorem insert (sound : world.Sound) {flight : Flight} {flights : List Flight}
    (perm : flights.Perm (flight :: world.flights)) (fresh : flight.number = world.nextNumber)
    (inTime : world.now ≤ flight.due) :
    Sound { world with flights := flights, nextNumber := world.nextNumber + 1 } := by
  have numbers : (flights.map (·.number) ++ world.landed.map (·.1)).Perm
      (world.nextNumber :: world.numbers) :=
    fresh ▸ (perm.map (·.number)).append_right _
  have unused : world.nextNumber ∉ world.numbers := fun used =>
    Nat.lt_irrefl _ (sound.below world.nextNumber used)
  refine ⟨fun other member => ?_, numbers.nodup_iff.2 (List.nodup_cons.2 ⟨unused, sound.distinct⟩),
    fun number used => ?_⟩
  · rcases List.mem_cons.1 (perm.mem_iff.1 member) with rfl | old
    · exact inTime
    · exact sound.punctual other old
  · rcases List.mem_cons.1 (numbers.mem_iff.1 used) with rfl | old
    · exact Nat.lt_succ_self _
    · exact Nat.lt_succ_of_lt (sound.below number old)

end Sound

end World

/-! ### Many steps -/

/-- A step of a flight: the flight before it, and the seconds that its send takes if it is one. -/
structure Tick where
  flight : Flight
  seconds : Rat

/-- What others see of a step. -/
def Tick.entry (tick : Tick) : TraceEntry := ⟨tick.flight.due, tick.flight.event⟩

namespace World

variable {network : Network ε} {world final : World ε} {ticks : List Tick}

/-- Time passes, and the flights take some steps in it, each when it is due. -/
inductive Passes (network : Network ε) : World ε → List Tick → World ε → Prop
  | rest {world : World ε} {now : Rat} : world.now ≤ now →
      (∀ flight ∈ world.flights, now ≤ flight.due) →
      Passes network world [] { world with now := now }
  | step {world final : World ε} {flight : Flight} {others : List Flight} {ticks : List Tick} :
      takeEarliest world.flights = some (flight, others) →
      Passes network (world.tick network flight others) ticks final →
      Passes network world
        (⟨flight, (network.send flight.raw flight.options world.environment).1.seconds⟩ :: ticks)
        final

theorem passes_nothing (sound : world.Sound) : Passes network world [] world :=
  .rest (le_refl _) sound.punctual

theorem passes_advance (network : Network ε) (target : Rat) (sound : world.Sound) :
    ∃ ticks, Passes network world ticks (world.advance network target) := by
  fun_induction advance network target world with
  | case1 world none =>
      refine ⟨[], .rest ?_ ?_⟩
      · rw [later_eq_max]
        exact le_max_left _ _
      · rw [takeEarliest_eq_none_iff.1 none]
        exact List.forall_mem_nil _
  | case2 world flight others taken _ _ ih =>
      obtain ⟨ticks, passes⟩ := ih (sound.tick network taken)
      exact ⟨_, .step taken passes⟩
  | case3 world flight others taken _ notBefore =>
      refine ⟨[], .rest ?_ fun other member => ?_⟩
      · rw [later_eq_max]
        exact le_max_left _ _
      · rw [later_eq_max]
        exact max_le (sound.punctual other member)
          ((not_lt.1 notBefore).trans (due_le_of_takeEarliest taken other member))

theorem passes_settle (network : Network ε) (awaited : List Nat) (sound : world.Sound) :
    ∃ ticks, Passes network world ticks (world.settle network awaited) := by
  fun_induction settle network awaited world with
  | case1 world => exact ⟨[], passes_nothing sound⟩
  | case2 world _ flight others taken _ ih =>
      obtain ⟨ticks, passes⟩ := ih (sound.tick network taken)
      exact ⟨_, .step taken passes⟩
  | case3 world => exact ⟨[], passes_nothing sound⟩

theorem takeEarliest_cons_of_le {flight : Flight} {rest : List Flight}
    (first : ∀ other ∈ rest, flight.due ≤ other.due) :
    takeEarliest (flight :: rest) = some (flight, rest) := by
  rw [takeEarliest]
  split
  · rfl
  · next earliest others taken =>
      have member := (perm_of_takeEarliest taken).mem_iff.2 List.mem_cons_self
      rw [if_neg (not_lt.2 (first earliest member))]

theorem depart_of_due {flight : Flight} (due : flight.due ≤ world.now) :
    world.depart network flight =
      World.tick network { world with nextNumber := world.nextNumber + 1 } flight world.flights :=
  if_pos due

theorem depart_of_notDue {flight : Flight} (notDue : ¬flight.due ≤ world.now) :
    world.depart network flight =
      { world with
        flights := world.flights ++ [flight]
        nextNumber := world.nextNumber + 1 } :=
  if_neg notDue

/-- No time passes when a flight begins. -/
theorem now_depart (flight : Flight) : (world.depart network flight).now = world.now := by
  by_cases due : flight.due ≤ world.now
  · rw [depart_of_due due, now_tick, later_eq_max, max_eq_left due]
  · rw [depart_of_notDue due]

theorem nextNumber_depart (flight : Flight) :
    (world.depart network flight).nextNumber = world.nextNumber + 1 := by
  by_cases due : flight.due ≤ world.now
  · rw [depart_of_due due, nextNumber_tick]
  · rw [depart_of_notDue due]

/-- A flight that begins is told of at the present time or not at all. -/
theorem exists_trace_depart (network : Network ε) (world : World ε) (flight : Flight) :
    ∃ entries, (world.depart network flight).trace = world.trace ++ entries ∧
      ∀ entry ∈ entries, entry = ⟨world.now, flight.event⟩ := by
  by_cases due : flight.due ≤ world.now
  · rw [depart_of_due due, trace_tick, later_eq_max, max_eq_left due]
    exact ⟨_, rfl, List.forall_mem_singleton.2 rfl⟩
  · rw [depart_of_notDue due]
    exact ⟨[], (List.append_nil _).symm, List.forall_mem_nil _⟩

/-- A flight that begins stands beside the others, and time passes while it takes its next step if
that is due at once. -/
theorem exists_passes_depart (network : Network ε) (sound : world.Sound) {flight : Flight}
    (fresh : flight.number = world.nextNumber) (inTime : world.now ≤ flight.due) :
    ∃ flights ticks, flights.Perm (flight :: world.flights) ∧
      Passes network { world with flights := flights, nextNumber := world.nextNumber + 1 } ticks
        (world.depart network flight) := by
  by_cases due : flight.due ≤ world.now
  · have soundFirst := sound.insert (.refl _) fresh inTime
    have taken : takeEarliest (flight :: world.flights) = some (flight, world.flights) :=
      takeEarliest_cons_of_le fun other member => due.trans (sound.punctual other member)
    rw [depart_of_due due]
    exact ⟨_, _, .refl _, .step taken (passes_nothing (soundFirst.tick network taken))⟩
  · have perm := List.perm_append_singleton flight world.flights
    rw [depart_of_notDue due]
    exact ⟨_, [], perm, passes_nothing (sound.insert perm fresh inTime)⟩

namespace Passes

theorem sound (passes : Passes network world ticks final) (sound : world.Sound) :
    final.Sound := by
  induction passes with
  | rest _ punctual => exact ⟨punctual, sound.distinct, sound.below⟩
  | step taken _ ih => exact ih (sound.tick network taken)

theorem trace_eq (passes : Passes network world ticks final) (sound : world.Sound) :
    final.trace = world.trace ++ ticks.map Tick.entry := by
  induction passes with
  | rest => rw [List.map_nil, List.append_nil]
  | step taken _ ih =>
      rw [ih (sound.tick network taken), trace_tick, sound.later_now_due (Sound.mem_of_taken taken),
        List.append_assoc]
      rfl

theorem nextNumber_eq (passes : Passes network world ticks final) :
    final.nextNumber = world.nextNumber := by
  induction passes with
  | rest => rfl
  | step _ _ ih => rw [ih, nextNumber_tick]

theorem landed_subset (passes : Passes network world ticks final) :
    world.landed ⊆ final.landed := by
  induction passes with
  | rest => exact List.Subset.refl _
  | step _ _ ih => exact List.Subset.trans (landed_subset_tick _ _) ih

/-- Where the last step of a flight is taken, the flight has landed. -/
theorem landed_of_mem_ticks (passes : Passes network world ticks final) {tick : Tick}
    (member : tick ∈ ticks) {landing : Landing} (lands : tick.flight.move = .land landing) :
    (tick.flight.number, landing) ∈ final.landed := by
  induction passes with
  | rest => exact nomatch member
  | step _ passes ih =>
      rcases List.mem_cons.1 member with rfl | later
      · exact passes.landed_subset (landed_of_tick lands)
      · exact ih later

/-- A flight after a step is one from before it, perhaps after its step. -/
theorem exists_continued_of_tick {flight other : Flight} {others : List Flight}
    (taken : takeEarliest world.flights = some (flight, others))
    (member : other ∈ (world.tick network flight others).flights) :
    ∃ old ∈ world.flights, old.Continues other := by
  rcases mem_flights_tick member with inOthers | becomes
  · exact ⟨other, Sound.mem_of_others taken inOthers, .refl other⟩
  · exact ⟨flight, Sound.mem_of_taken taken, .of_next becomes⟩

/-- Flights that are in the air were so before. -/
theorem exists_of_mem_flights (passes : Passes network world ticks final) {flight : Flight}
    (member : flight ∈ final.flights) : ∃ old ∈ world.flights, old.Continues flight := by
  induction passes with
  | rest => exact ⟨flight, member, .refl flight⟩
  | step taken _ ih =>
      obtain ⟨between, inFlights, same⟩ := ih member
      obtain ⟨old, inWorld, sameOld⟩ := exists_continued_of_tick taken inFlights
      exact ⟨old, inWorld, sameOld.trans same⟩

/-- Steps are those of flights that were in the air. -/
theorem exists_continued (passes : Passes network world ticks final) {tick : Tick}
    (member : tick ∈ ticks) : ∃ old ∈ world.flights, old.Continues tick.flight := by
  induction passes with
  | rest => exact nomatch member
  | step taken _ ih =>
      rcases List.mem_cons.1 member with rfl | later
      · exact ⟨_, Sound.mem_of_taken taken, .refl _⟩
      · obtain ⟨between, inFlights, same⟩ := ih later
        obtain ⟨old, inWorld, sameOld⟩ := exists_continued_of_tick taken inFlights
        exact ⟨old, inWorld, sameOld.trans same⟩

theorem exists_of_mem_ticks (passes : Passes network world ticks final) {tick : Tick}
    (member : tick ∈ ticks) : ∃ old ∈ world.flights, old.number = tick.flight.number := by
  obtain ⟨old, inWorld, same⟩ := passes.exists_continued member
  exact ⟨old, inWorld, same.number⟩

end Passes

end World

/-! ### One flight -/

/-- The steps of one flight, and the flight after them unless it has landed. -/
inductive Flight.Course (network : Network ε) : Flight → List Tick → Option Flight → Prop
  | aloft {flight : Flight} : Course network flight [] (some flight)
  | goesOn {flight later : Flight} {environment : ε} {ticks : List Tick} {left : Option Flight} :
      (flight.next network environment).1 = .inr later → Course network later ticks left →
      Course network flight
        (⟨flight, (network.send flight.raw flight.options environment).1.seconds⟩ :: ticks) left
  | landed {flight : Flight} {seconds : Rat} {landing : Landing} :
      flight.move = .land landing → Course network flight [⟨flight, seconds⟩] none

/-- The steps of the flight of some number. -/
def Tick.ofNumber (number : Nat) (ticks : List Tick) : List Tick :=
  ticks.filter (·.flight.number == number)

theorem Tick.ofNumber_cons_own {number : Nat} {tick : Tick} {ticks : List Tick}
    (own : tick.flight.number = number) :
    ofNumber number (tick :: ticks) = tick :: ofNumber number ticks :=
  List.filter_cons_of_pos (beq_iff_eq.2 own)

theorem Tick.ofNumber_cons_other {number : Nat} {tick : Tick} {ticks : List Tick}
    (other : tick.flight.number ≠ number) : ofNumber number (tick :: ticks) = ofNumber number ticks :=
  List.filter_cons_of_neg (mt beq_iff_eq.1 other)

namespace World.Passes

variable {network : Network ε} {world final : World ε} {ticks : List Tick}

theorem ofNumber_eq_nil (number : Nat) (passes : Passes network world ticks final)
    (absent : ∀ flight ∈ world.flights, flight.number ≠ number) :
    Tick.ofNumber number ticks = [] := by
  rw [Tick.ofNumber, List.filter_eq_nil_iff]
  intro tick member
  obtain ⟨old, inWorld, same⟩ := passes.exists_of_mem_ticks member
  rw [beq_iff_eq, ← same]
  exact absent old inWorld

/-- In a step a flight goes on, or it lands, or the step is that of another one. -/
theorem cases_tick (network : Network ε) (sound : world.Sound) {first flight : Flight}
    {others : List Flight} (taken : takeEarliest world.flights = some (first, others))
    (member : flight ∈ world.flights) :
    let after := world.tick network first others
    (first = flight ∧ ∃ later, (flight.next network world.environment).1 = .inr later ∧
      later ∈ after.flights) ∨
    (first = flight ∧ ∃ landing, flight.move = .land landing ∧
      (flight.number, landing) ∈ after.landed) ∨
    (first.number ≠ flight.number ∧ flight ∈ after.flights) := by
  intro after
  by_cases own : first.number = flight.number
  · obtain rfl := sound.eq_of_number_eq (Sound.mem_of_taken taken) member own
    rcases first.lands_or_goesOn network world.environment with ⟨landing, lands⟩ | ⟨later, becomes⟩
    · exact Or.inr (Or.inl ⟨rfl, landing, lands, landed_of_tick lands⟩)
    · refine Or.inl ⟨rfl, later, becomes, ?_⟩
      have aloft : after = _ := tick_of_next becomes
      rw [aloft]
      exact List.mem_append_right _ (List.mem_singleton_self _)
  · have inOthers := (List.mem_cons.1 ((perm_of_takeEarliest taken).mem_iff.1 member)).resolve_left
      fun same => own (same ▸ rfl)
    exact Or.inr (Or.inr ⟨own, mem_flights_tick_of_mem_others inOthers⟩)

/-- While time passes, every flight follows its course: either it is in the air at the end as the
course leaves it, or it has landed. -/
theorem course (passes : Passes network world ticks final) (sound : world.Sound)
    {flight : Flight} (member : flight ∈ world.flights) :
    ∃ left, flight.Course network (Tick.ofNumber flight.number ticks) left ∧
      ∀ later, left = some later → later ∈ final.flights := by
  induction passes generalizing flight with
  | rest =>
      refine ⟨some flight, .aloft, fun later same => ?_⟩
      rw [← Option.some.inj same]
      exact member
  | @step world final earliest others ticks taken passes ih =>
      have soundAfter := sound.tick network taken
      rcases cases_tick network sound taken member with
        ⟨rfl, later, becomes, inAir⟩ | ⟨rfl, landing, lands, landed⟩ | ⟨other, inAir⟩
      · obtain ⟨left, course, ends⟩ := ih soundAfter inAir
        rw [← (Flight.Continues.of_next becomes).number] at course
        rw [Tick.ofNumber_cons_own (Eq.refl earliest.number)]
        exact ⟨left, .goesOn becomes course, ends⟩
      · have finished := passes.ofNumber_eq_nil earliest.number fun other inAir =>
          soundAfter.number_ne_of_landed inAir landed
        rw [Tick.ofNumber_cons_own (Eq.refl earliest.number), finished]
        exact ⟨none, .landed lands, fun later absent => nomatch absent⟩
      · rw [Tick.ofNumber_cons_other other]
        exact ih soundAfter inAir

end World.Passes

end SolanaTransactions
