/-
Module: SolanaTransactions.Proofs.Submission.Chronicle
Purpose: What happens in a run, told step by step, with the flight that each later send is a step of.
Main exports:
  Step, Step.Sends, Flight.LandsIn, World.Begun, World.Chronicle, World.Chronicle.trans,
  World.Chronicle.bytes_of_sends, World.Chronicled, submitAll_chronicled
-/
import SolanaTransactions.Proofs.Client.Moves
import SolanaTransactions.Proofs.Submission.Resending

namespace SolanaTransactions

/-!
A trace does not tell whose bytes were sent again.  The chronicle of a run does:
each of its steps is an event of the run itself or a step of a flight, and a
flight that is in the air goes on until it lands.  A chronicle of two parts is
that of the first part and then that of the second, so what a run sends is read
off its operations one after the other.
-/

variable {ε : Type} {network : Network ε}

/-- A step of a run: an event of its own, or a step of a flight. -/
inductive Step where
  | own (entry : TraceEntry)
  | flight (tick : Tick)

namespace Step

/-- What others see of a step. -/
def entry : Step → TraceEntry
  | own entry => entry
  | flight tick => tick.entry

end Step

/-- In a step a flight with some bytes lands with an outcome. -/
structure Tick.Ends (tick : Tick) (raw : Bytes) (outcome : Except Fault Confirmation) : Prop where
  raw : tick.flight.raw = raw
  lands : ∃ signature, tick.flight.move = .land ⟨signature, outcome⟩

/-! ### One flight -/

namespace Flight

variable {flight : Flight} {landing : Landing} {early late : List Step}

/-- A flight lands in one of the steps. -/
def LandsIn (flight : Flight) (landing : Landing) (steps : List Step) : Prop :=
  ∃ tick, .flight tick ∈ steps ∧ tick.flight.move = .land landing ∧ flight.Continues tick.flight

theorem LandsIn.exists_ends (lands : flight.LandsIn landing late) :
    ∃ tick, .flight tick ∈ late ∧ tick.flight.number = flight.number ∧
      tick.Ends flight.raw landing.outcome := by
  obtain ⟨tick, member, last, same⟩ := lands
  exact ⟨tick, member, same.number.symm, same.raw.symm, landing.signature, last⟩

theorem LandsIn.append_left (lands : flight.LandsIn landing early) (late : List Step) :
    flight.LandsIn landing (early ++ late) := by
  obtain ⟨tick, member, last⟩ := lands
  exact ⟨tick, List.mem_append_left _ member, last⟩

theorem LandsIn.append_right (lands : flight.LandsIn landing late) (early : List Step) :
    flight.LandsIn landing (early ++ late) := by
  obtain ⟨tick, member, last⟩ := lands
  exact ⟨tick, List.mem_append_right _ member, last⟩

theorem Continues.landsIn {later : Flight} (same : flight.Continues later)
    (lands : later.LandsIn landing late) : flight.LandsIn landing late := by
  obtain ⟨tick, member, last, continues⟩ := lands
  exact ⟨tick, member, last, same.trans continues⟩

/-- A flight is in the air after some steps, or it lands in one of them. -/
def GoesOn (flight : Flight) (steps : List Step) (after : World ε) : Prop :=
  (∃ later ∈ after.flights, flight.Continues later) ∨ ∃ landing, flight.LandsIn landing steps

theorem GoesOn.append_right {after : World ε} (goesOn : flight.GoesOn late after)
    (early : List Step) : flight.GoesOn (early ++ late) after :=
  goesOn.imp_right fun ⟨landing, lands⟩ => ⟨landing, lands.append_right early⟩

end Flight

namespace World

variable {world before between after : World ε} {bytes : Bytes → Prop}

/-! ### Chronicles -/

/-- A sound state was left behind, and the flights that have begun since are with bytes of some
kind. -/
structure Begun (bytes : Bytes → Prop) (before after : World ε) : Prop where
  sound : after.Sound
  counts : before.nextNumber ≤ after.nextNumber
  flights : ∀ flight ∈ after.flights, (∃ old ∈ before.flights, old.Continues flight) ∨
    before.nextNumber ≤ flight.number ∧ bytes flight.raw

/-- The steps from one state to another, in a run that sends bytes of some kind only. -/
structure Chronicle (bytes : Bytes → Prop) (before : World ε) (steps : List Step)
    (after : World ε) : Prop extends Begun bytes before after where
  trace : after.trace = before.trace ++ steps.map Step.entry
  landed : before.landed ⊆ after.landed
  /-- What is sent for the first time is of that kind. -/
  sends : ∀ entry, .own entry ∈ steps → ∀ raw options, entry.event = .sent raw options → bytes raw
  /-- A step of a flight is that of one that was in the air, or that has begun. -/
  ticks : ∀ tick, .flight tick ∈ steps → (∃ old ∈ before.flights, old.Continues tick.flight) ∨
    before.nextNumber ≤ tick.flight.number ∧ tick.flight.number < after.nextNumber ∧
      bytes tick.flight.raw
  /-- The last step of a flight is its landing. -/
  landings : ∀ tick, .flight tick ∈ steps → ∀ landing, tick.flight.move = .land landing →
    (tick.flight.number, landing) ∈ after.landed
  /-- No flight is lost. -/
  goesOn : ∀ flight ∈ before.flights, flight.GoesOn steps after

namespace Chronicle

variable {early late steps : List Step}

theorem refl (sound : world.Sound) : Chronicle bytes world [] world where
  sound := sound
  counts := le_refl _
  flights := fun flight member => Or.inl ⟨flight, member, .refl flight⟩
  trace := (List.append_nil _).symm
  landed := List.Subset.refl _
  sends := fun _ absent => nomatch absent
  ticks := fun _ absent => nomatch absent
  landings := fun _ absent => nomatch absent
  goesOn := fun flight member => Or.inl ⟨flight, member, .refl flight⟩

/-- Bytes of some kind are also of a wider one. -/
theorem mono {wider : Bytes → Prop} (chronicle : Chronicle bytes before steps after)
    (weaken : ∀ raw, bytes raw → wider raw) : Chronicle wider before steps after where
  sound := chronicle.sound
  counts := chronicle.counts
  flights := fun flight member =>
    (chronicle.flights flight member).imp_right (And.imp_right (weaken _))
  trace := chronicle.trace
  landed := chronicle.landed
  sends := fun entry member raw options sent =>
    weaken raw (chronicle.sends entry member raw options sent)
  ticks := fun tick member =>
    (chronicle.ticks tick member).imp_right (And.imp_right (And.imp_right (weaken _)))
  landings := chronicle.landings
  goesOn := chronicle.goesOn

/-- A flight of the state between two parts goes on through the second one. -/
theorem goesOn_trans (second : Chronicle bytes between late after) {flight : Flight}
    (first : flight.GoesOn early between) : flight.GoesOn (early ++ late) after := by
  rcases first with ⟨middle, inBetween, same⟩ | ⟨landing, lands⟩
  · rcases second.goesOn middle inBetween with ⟨later, inAfter, newer⟩ | ⟨landing, lands⟩
    · exact Or.inl ⟨later, inAfter, same.trans newer⟩
    · exact Or.inr ⟨landing, (same.landsIn lands).append_right early⟩
  · exact Or.inr ⟨landing, lands.append_left late⟩

/-- The chronicle of one run after another. -/
theorem trans (first : Chronicle bytes before early between)
    (second : Chronicle bytes between late after) :
    Chronicle bytes before (early ++ late) after where
  sound := second.sound
  counts := first.counts.trans second.counts
  flights := by
    intro flight member
    rcases second.flights flight member with ⟨middle, inBetween, same⟩ | ⟨fresh, kind⟩
    · rcases first.flights middle inBetween with ⟨old, inBefore, older⟩ | ⟨fresh, kind⟩
      · exact Or.inl ⟨old, inBefore, older.trans same⟩
      · exact Or.inr ⟨same.number ▸ fresh, same.raw ▸ kind⟩
    · exact Or.inr ⟨first.counts.trans fresh, kind⟩
  trace := by
    rw [second.trace, first.trace, List.append_assoc, List.map_append]
  landed := List.Subset.trans first.landed second.landed
  sends := by
    intro entry member
    rcases List.mem_append.1 member with inEarly | inLate
    · exact first.sends entry inEarly
    · exact second.sends entry inLate
  ticks := by
    intro tick member
    rcases List.mem_append.1 member with inEarly | inLate
    · rcases first.ticks tick inEarly with old | ⟨fresh, below, kind⟩
      · exact Or.inl old
      · exact Or.inr ⟨fresh, below.trans_le second.counts, kind⟩
    · rcases second.ticks tick inLate with ⟨middle, inBetween, same⟩ | ⟨fresh, below, kind⟩
      · rcases first.flights middle inBetween with ⟨old, inBefore, older⟩ | ⟨fresh, kind⟩
        · exact Or.inl ⟨old, inBefore, older.trans same⟩
        · have below := (first.sound.number_lt inBetween).trans_le second.counts
          exact Or.inr ⟨same.number ▸ fresh, same.number ▸ below, same.raw ▸ kind⟩
      · exact Or.inr ⟨first.counts.trans fresh, below, kind⟩
  landings := by
    intro tick member landing lands
    rcases List.mem_append.1 member with inEarly | inLate
    · exact second.landed (first.landings tick inEarly landing lands)
    · exact second.landings tick inLate landing lands
  goesOn := fun flight member => second.goesOn_trans (first.goesOn flight member)

/-- Events of a run make a chronicle in which nothing else changes. -/
theorem of_entries (environment : ε) (entries : List TraceEntry) (sound : before.Sound)
    (kind : ∀ entry ∈ entries, ∀ raw options, entry.event = .sent raw options → bytes raw) :
    Chronicle bytes before (entries.map .own)
      { before with environment := environment, trace := before.trace ++ entries } where
  sound := ⟨sound.punctual, sound.distinct, sound.below⟩
  counts := le_refl _
  flights := fun flight member => Or.inl ⟨flight, member, .refl flight⟩
  trace := by
    rw [List.map_map]
    exact congrArg _ (List.map_id entries).symm
  landed := List.Subset.refl _
  sends := by
    intro entry member
    obtain ⟨_, inEntries, same⟩ := List.mem_map.1 member
    obtain rfl := Step.own.inj same
    exact kind _ inEntries
  ticks := by
    intro tick member
    obtain ⟨_, _, other⟩ := List.mem_map.1 member
    contradiction
  landings := by
    intro tick member
    obtain ⟨_, _, other⟩ := List.mem_map.1 member
    contradiction
  goesOn := fun flight member => Or.inl ⟨flight, member, .refl flight⟩

/-- Time that passes makes a chronicle of the steps of the flights. -/
theorem of_passes {ticks : List Tick} (sound : before.Sound)
    (passes : Passes network before ticks after) :
    Chronicle bytes before (ticks.map .flight) after where
  sound := passes.sound sound
  counts := ge_of_eq passes.nextNumber_eq
  flights := fun flight member => Or.inl (passes.exists_of_mem_flights member)
  trace := by
    rw [passes.trace_eq sound, List.map_map]
    rfl
  landed := passes.landed_subset
  sends := by
    intro entry member
    obtain ⟨_, _, other⟩ := List.mem_map.1 member
    contradiction
  ticks := by
    intro tick member
    obtain ⟨_, inTicks, same⟩ := List.mem_map.1 member
    obtain rfl := Step.flight.inj same
    exact Or.inl (passes.exists_continued inTicks)
  landings := by
    intro tick member landing
    obtain ⟨_, inTicks, same⟩ := List.mem_map.1 member
    obtain rfl := Step.flight.inj same
    exact passes.landed_of_mem_ticks inTicks
  goesOn := by
    intro flight member
    obtain ⟨left, course, ends⟩ := passes.course sound member
    have last := course.leaves
    cases left with
    | some later => exact Or.inl ⟨later, ends later rfl, last⟩
    | none =>
        obtain ⟨tick, inOwn, ⟨landing, lands⟩, same⟩ := last
        exact Or.inr
          ⟨landing, tick, List.mem_map_of_mem (List.mem_of_mem_filter inOwn), lands, same⟩

/-- A flight that begins makes a chronicle without a step. -/
theorem of_inserted (sound : before.Sound) {flight : Flight} {flights : List Flight}
    (perm : flights.Perm (flight :: before.flights)) (fresh : flight.number = before.nextNumber)
    (inTime : before.now ≤ flight.due) (kind : bytes flight.raw) :
    Chronicle bytes before []
      { before with flights := flights, nextNumber := before.nextNumber + 1 } where
  sound := sound.insert perm fresh inTime
  counts := Nat.le_succ _
  flights := by
    intro other member
    rcases List.mem_cons.1 (perm.mem_iff.1 member) with rfl | old
    · exact Or.inr ⟨ge_of_eq fresh, kind⟩
    · exact Or.inl ⟨other, old, .refl other⟩
  trace := (List.append_nil _).symm
  landed := List.Subset.refl _
  sends := fun _ absent => nomatch absent
  ticks := fun _ absent => nomatch absent
  landings := fun _ absent => nomatch absent
  goesOn := fun other member =>
    Or.inl ⟨other, perm.mem_iff.2 (List.mem_cons_of_mem _ member), .refl other⟩

/-- A flight that begins goes on, and takes its next step if that is due at once. -/
theorem exists_of_depart (network : Network ε) (sound : before.Sound) {flight : Flight}
    (fresh : flight.number = before.nextNumber) (inTime : before.now ≤ flight.due)
    (kind : bytes flight.raw) :
    ∃ steps, Chronicle bytes before steps (before.depart network flight) ∧
      flight.GoesOn steps (before.depart network flight) := by
  obtain ⟨flights, ticks, perm, passes⟩ := before.exists_passes_depart network sound fresh inTime
  have begins := of_inserted sound perm fresh inTime kind
  have goesOn : Chronicle bytes _ (ticks.map .flight) _ := of_passes begins.sound passes
  exact ⟨_, begins.trans goesOn, goesOn.goesOn flight (perm.mem_iff.2 List.mem_cons_self)⟩

theorem landed_of_landsIn (chronicle : Chronicle bytes before steps after) {flight : Flight}
    {landing : Landing} (lands : flight.LandsIn landing steps) :
    (flight.number, landing) ∈ after.landed := by
  obtain ⟨tick, member, last, same⟩ := lands
  rw [same.number]
  exact chronicle.landings tick member landing last

/-- The flights of the steps are known in the end. -/
theorem number_lt (sound : before.Sound) (chronicle : Chronicle bytes before steps after)
    {tick : Tick} (member : .flight tick ∈ steps) : tick.flight.number < after.nextNumber := by
  rcases chronicle.ticks tick member with ⟨old, inBefore, same⟩ | ⟨_, below, _⟩
  · exact same.number ▸ (sound.number_lt inBefore).trans_le chronicle.counts
  · exact below

end Chronicle

/-- From a sound state, there is a chronicle of all that happens. -/
def Chronicled (bytes : Bytes → Prop) (before after : World ε) : Prop :=
  before.Sound → ∃ steps, Chronicle bytes before steps after

instance (bytes : Bytes → Prop) : IsPreorder (World ε) (Chronicled bytes) where
  refl world sound := ⟨[], .refl sound⟩
  trans before between after first second sound := by
    obtain ⟨early, chronicle⟩ := first sound
    obtain ⟨late, later⟩ := second chronicle.sound
    exact ⟨early ++ late, chronicle.trans later⟩

/-- What sends nothing is no trouble, whatever may be sent otherwise. -/
theorem ExtendsBy.chronicled (grown : ExtendsBy Event.Quiet before after) (bytes : Bytes → Prop) :
    Chronicled bytes before after := by
  obtain ⟨environment, entries, rfl, quiet⟩ := grown
  intro sound
  refine ⟨_, .of_entries environment entries sound fun entry member raw options sent => ?_⟩
  exact absurd sent ((quiet entry member).2 raw options)

end World

/-! ### What submissions do -/

section Submissions

variable (bytes : Bytes → Prop) {submission : Submission} {submissions : List Submission}

theorem Client.wait_chronicled (network : Network ε) (seconds : Rat) :
    (Client.wait network seconds).Moves (World.Chronicled bytes) := by
  intro world sound
  obtain ⟨ticks, passes⟩ := world.passes_advance network (world.now + elapsed seconds) sound
  exact ⟨_, .of_passes sound passes⟩

namespace Submission

theorem chronicle_justSent (network : Network ε) {raw : Bytes} (kind : bytes raw)
    (options : SendOptions) {world : World ε} (sound : world.Sound) :
    World.Chronicle bytes world [.own ⟨world.now, .sent raw options⟩]
      (justSent network raw options world) := by
  refine .of_entries (network.send raw options world.environment).2
    [⟨world.now, .sent raw options⟩] sound fun entry member other also sent => ?_
  obtain rfl := List.mem_singleton.1 member
  obtain ⟨rfl, _⟩ := Event.sent.inj sent
  exact kind

theorem beginSend_chronicled (scheme : SignatureScheme) (network : Network ε)
    (kind : bytes submission.raw) (options : SendOptions) :
    (submission.beginSend scheme network options).Moves (World.Chronicled bytes) := by
  rw [beginSend]
  split
  · exact .pure _
  · intro world sound
    exact ⟨_, chronicle_justSent bytes network kind options sound⟩

end Submission

theorem Client.depart_chronicled (network : Network ε) {flight : Nat → Rat → Flight}
    (fresh : ∀ number now, (flight number now).number = number)
    (inTime : ∀ number now, now ≤ (flight number now).due)
    (kind : ∀ number now, bytes (flight number now).raw) :
    (Client.depart network flight).Moves (World.Chronicled bytes) := by
  intro world sound
  obtain ⟨steps, begins, _⟩ :=
    World.Chronicle.exists_of_depart network sound (fresh _ _) (inTime _ _) (kind _ _)
  exact ⟨steps, begins⟩

namespace Submission

theorem launchBeside_chronicled (scheme : SignatureScheme) (network : Network ε)
    (kind : bytes submission.raw) :
    (submission.launchBeside scheme network).Moves (World.Chronicled bytes) := by
  refine .bind (fun world => refl world) fun connection => ?_
  refine .bind (beginSend_chronicled bytes scheme network kind _) fun sending => ?_
  exact Client.depart_chronicled bytes network (fun _ _ => rfl)
    (fun _ now => le_add_of_nonneg_right (elapsed_nonneg _)) fun _ _ => kind

theorem mapM_launchBeside_chronicled (scheme : SignatureScheme) (network : Network ε)
    (kind : ∀ submission ∈ submissions, bytes submission.raw) :
    (submissions.mapM (launchBeside scheme network)).Moves (World.Chronicled bytes) :=
  .mapM fun submission member =>
    launchBeside_chronicled bytes scheme network (kind submission member)

end Submission

theorem awaitReceipts_chronicled (network : Network ε) (numbers : List Nat) :
    (awaitReceipts network numbers).Moves (World.Chronicled bytes) := by
  intro world sound
  obtain ⟨ticks, passes⟩ := world.passes_settle network numbers sound
  rw [runFrom_awaitReceipts]
  exact ⟨_, .of_passes sound passes⟩

theorem submitAll_chronicled (scheme : SignatureScheme) (network : Network ε)
    (kind : ∀ submission ∈ submissions, bytes submission.raw) :
    (submitAll scheme network submissions).Moves (World.Chronicled bytes) :=
  .bind (Submission.mapM_launchBeside_chronicled bytes scheme network kind) fun numbers =>
    awaitReceipts_chronicled bytes network numbers

end Submissions

end SolanaTransactions
