/-
Module: SolanaTransactions.Proofs.Submission.SideBySide
Purpose: Submissions side by side are all sent at once, and the first fault in time ends the wait.
Main exports:
  World.AllBegun, exists_allBegun, runFrom_submitAll, submitAll_sends_at_once,
  submitAll_stops_at_first_fault
-/
import SolanaTransactions.Proofs.Submission.Chronicle

namespace SolanaTransactions

/-!
To begin a submission takes no time, also when its first send does: the send is
under way from then on.  So by the time at which anything can fail, everything that
passes its check was sent.  Then the wait ends with the first step in which one of
the submissions fails, whatever the others are doing.
-/

variable {ε : Type} {network : Network ε} {scheme : SignatureScheme}

/-! ### The beginning -/

/-- The bytes that an event sends. -/
def TraceEntry.sentBytes? (entry : TraceEntry) : Option Bytes :=
  match entry.event with
  | .sent raw _ => some raw
  | _ => none

theorem TraceEntry.sentBytes?_eq_none {time : Rat} {event : Event}
    (quiet : ∀ raw options, event ≠ .sent raw options) : sentBytes? ⟨time, event⟩ = none := by
  rw [sentBytes?]
  split
  · next raw options sent => exact absurd sent (quiet raw options)
  · rfl

/-- The bytes that submissions send for the first time: those whose transaction passes the check. -/
def firstBytes (scheme : SignatureScheme) (submissions : List Submission) : List Bytes :=
  (submissions.filter fun submission =>
    (submission.prepared.transaction.verify scheme).isOk).map Submission.raw

namespace World

/-- Submissions side by side have begun: they were sent in their order, and no time has passed. -/
structure AllBegun (scheme : SignatureScheme) (submissions : List Submission)
    (before : World ε) (entries : List TraceEntry) (after : World ε) : Prop where
  now : after.now = before.now
  trace : after.trace = before.trace ++ entries
  atOnce : ∀ entry ∈ entries, entry.time = before.now
  sends : entries.filterMap TraceEntry.sentBytes? = firstBytes scheme submissions

namespace AllBegun

variable {before between after : World ε} {submission : Submission}
  {submissions rest : List Submission} {early late entries : List TraceEntry}

theorem nil (world : World ε) : AllBegun scheme [] world [] world :=
  ⟨rfl, (List.append_nil _).symm, List.forall_mem_nil _, rfl⟩

theorem append (first : AllBegun scheme submissions before early between)
    (second : AllBegun scheme rest between late after) :
    AllBegun scheme (submissions ++ rest) before (early ++ late) after where
  now := second.now.trans first.now
  trace := by
    rw [second.trace, first.trace, List.append_assoc]
  atOnce := by
    intro entry member
    rcases List.mem_append.1 member with inEarly | inLate
    · exact first.atOnce entry inEarly
    · exact (second.atOnce entry inLate).trans first.now
  sends := by
    rw [List.filterMap_append, first.sends, second.sends, firstBytes, firstBytes, firstBytes,
      List.filter_append, List.map_append]

/-- A flight that departs takes no time and sends nothing else. -/
theorem exists_depart (begun : AllBegun scheme submissions before entries between)
    (network : Network ε) {flight : Flight} {ends : Rat} {reply : Except Fault Signature}
    (departs : flight.phase = .departing ends reply) :
    ∃ entries, AllBegun scheme submissions before entries (between.depart network flight) := by
  obtain ⟨own, trace, same⟩ := between.exists_trace_depart network flight
  have silent : own.filterMap TraceEntry.sentBytes? = [] := by
    refine List.filterMap_eq_nil_iff.2 fun entry member => ?_
    rw [same entry member]
    exact TraceEntry.sentBytes?_eq_none (Flight.event_ne_sent_of_departing departs)
  refine ⟨entries ++ own, (now_depart flight).trans begun.now, ?trace, ?atOnce, ?sends⟩
  case trace => rw [trace, begun.trace, List.append_assoc]
  case atOnce =>
    intro entry member
    rcases List.mem_append.1 member with before | last
    · exact begun.atOnce entry before
    · rw [same entry last]
      exact begun.now
  case sends => rw [List.filterMap_append, silent, List.append_nil, begun.sends]

end AllBegun

end World

namespace Submission

variable {submission : Submission}

theorem exists_allBegun_beginSend (scheme : SignatureScheme) (network : Network ε)
    (submission : Submission) (options : SendOptions) (world : World ε) :
    ∃ sending entries begun,
      (submission.beginSend scheme network options).runFrom world = (.ok sending, begun) ∧
      begun.nextNumber = world.nextNumber ∧
        World.AllBegun scheme [submission] world entries begun := by
  rw [beginSend]
  cases checked : submission.prepared.transaction.verify scheme with
  | error fault =>
      refine ⟨_, [], world, rfl, rfl, rfl, (List.append_nil _).symm, List.forall_mem_nil _, ?_⟩
      simp [firstBytes, checked, Except.isOk, Except.toBool]
  | ok _ =>
      refine ⟨_, [⟨world.now, .sent submission.raw options⟩], _, rfl, rfl, rfl, rfl,
        List.forall_mem_singleton.2 rfl, ?_⟩
      simp [firstBytes, checked, Except.isOk, Except.toBool, TraceEntry.sentBytes?]

/-- A submission that others run beside has begun a flight, whether it is refused or not. -/
theorem exists_allBegun_launchBeside (scheme : SignatureScheme) (network : Network ε)
    (submission : Submission) (world : World ε) :
    ∃ entries after,
      (submission.launchBeside scheme network).runFrom world = (.ok world.nextNumber, after) ∧
      after.nextNumber = world.nextNumber + 1 ∧
        World.AllBegun scheme [submission] world entries after := by
  obtain ⟨sending, early, between, began, number, begun⟩ := exists_allBegun_beginSend scheme network
    submission (submission.firstOptions network world) world
  have ran : (submission.launchBeside scheme network).runFrom world =
      (submission.beginSend scheme network (submission.firstOptions network world) >>=
        fun sending => Client.depart network fun number now =>
          submission.departure (submission.firstOptions network world) number
            (now + elapsed sending.seconds) sending.reply).runFrom world := rfl
  rw [Client.runFrom_bind, began] at ran
  have departs : (submission.departure (submission.firstOptions network world) between.nextNumber
      (between.now + elapsed sending.seconds) sending.reply).phase = .departing _ _ := rfl
  obtain ⟨entries, departed⟩ := begun.exists_depart network departs
  refine ⟨entries, _, ran.trans (Prod.ext (congrArg Except.ok number) rfl), ?_, departed⟩
  exact (World.nextNumber_depart _).trans (congrArg Nat.succ number)

end Submission

/-- Submissions side by side have all begun, each with a flight of its own, before anyone waits for
them. -/
theorem exists_allBegun (scheme : SignatureScheme) (network : Network ε)
    (submissions : List Submission) (world : World ε) :
    ∃ entries begun, (submissions.mapM (Submission.launchBeside scheme network)).runFrom world =
        (.ok (List.range' world.nextNumber submissions.length), begun) ∧
      begun.nextNumber = world.nextNumber + submissions.length ∧
        World.AllBegun scheme submissions world entries begun := by
  induction submissions generalizing world with
  | nil => exact ⟨[], world, rfl, rfl, .nil world⟩
  | cons submission rest ih =>
      obtain ⟨early, between, ranFirst, number, first⟩ :=
        Submission.exists_allBegun_launchBeside scheme network submission world
      obtain ⟨late, after, ranRest, counts, others⟩ := ih between
      refine ⟨early ++ late, after, ?_, ?_, first.append others⟩
      · rw [List.mapM_cons, Client.runFrom_bind, ranFirst]
        dsimp only
        rw [Client.runFrom_bind, ranRest, number]
        rfl
      · rw [counts, number, List.length_cons, Nat.add_assoc, Nat.add_comm 1]

theorem runFrom_submitAll {submissions : List Submission} {numbers : List Nat}
    {world begun : World ε}
    (launched : (submissions.mapM (Submission.launchBeside scheme network)).runFrom world =
      (.ok numbers, begun)) :
    (submitAll scheme network submissions).runFrom world =
      (awaitReceipts network numbers).runFrom begun := by
  rw [submitAll, Client.runFrom_bind, launched]

/-- Submissions side by side that pass their check are all sent at the time at which they are called
for, in their order and before anything else is sent. -/
theorem submitAll_sends_at_once (scheme : SignatureScheme) (network : Network ε)
    (submissions : List Submission) (world : World ε) :
    ∃ entries,
      world.trace ++ entries <+: ((submitAll scheme network submissions).runFrom world).2.trace ∧
      (∀ entry ∈ entries, entry.time = world.now) ∧
      entries.filterMap TraceEntry.sentBytes? = firstBytes scheme submissions := by
  obtain ⟨entries, begun, launched, _, allBegun⟩ := exists_allBegun scheme network submissions world
  refine ⟨entries, ?_, allBegun.atOnce, allBegun.sends⟩
  rw [runFrom_submitAll launched, ← allBegun.trace]
  exact grows_awaitReceipts network _ begun

/-- Two first sends that take five seconds each are under way at the same time. -/
example :
    let run := (submitAll .lenient (Script.slowNetwork [5, 5])
      [.ofTwo [Signature.ofNat 1, Signature.ofNat 2],
        .ofTwo [Signature.ofNat 3, Signature.ofNat 2]]).runFrom (World.start Script.plain)
    run.1.map List.length = .ok 2 ∧ run.2.now = 5 ∧
      (run.2.trace.filter (·.sentBytes?.isSome)).map (·.time) = [0, 0] := by
  decide +kernel

/-! ### The end -/

/-- The wait for submissions side by side ends with a fault as soon as one of them has failed: when
they have all begun, or in the first step in which a flight of them lands with a fault. -/
theorem submitAll_stops_at_first_fault {submissions : List Submission} {fault : Fault}
    {world after : World ε} (sound : world.Sound)
    (stopped : (submitAll scheme network submissions).runFrom world = (.error fault, after)) :
    let numbers := List.range' world.nextNumber submissions.length
    ∃ entries begun, World.AllBegun scheme submissions world entries begun ∧
      (after = begun ∧ begun.faultAmong numbers = some fault ∨
        ∃ ticks last signature, World.Passes network begun (ticks ++ [last]) after ∧
          last.flight.number ∈ numbers ∧ last.flight.move = .land ⟨signature, .error fault⟩ ∧
          ∀ tick ∈ ticks, tick.flight.number ∈ numbers → ∀ signature cause,
            tick.flight.move ≠ .land ⟨signature, .error cause⟩) := by
  intro numbers
  obtain ⟨entries, begun, launched, _, allBegun⟩ :=
    exists_allBegun scheme network submissions world
  rw [runFrom_submitAll launched] at stopped
  obtain ⟨rfl, failed⟩ := of_runFrom_awaitReceipts_error stopped
  obtain ⟨_, chronicle⟩ := (Submission.mapM_launchBeside_chronicled (fun _ => True) scheme network
    fun _ _ => trivial).leads launched sound
  refine ⟨entries, begun, allBegun, ?_⟩
  cases found : begun.faultAmong numbers with
  | some cause =>
      have stays := World.settle_of_fault network found
      rw [stays, found] at failed
      exact Or.inl ⟨stays, failed⟩
  | none => exact Or.inr (begun.exists_failing_settle network chronicle.sound found failed)

/-- The first confirmation breaks off after a second, while the third first send is under way and
the second confirmation takes ten seconds: the wait is over at once, and the second transaction is
sent again later. -/
example :
    let network := Script.slowNetwork [0, 0, 20]
    let run := (submitAll .lenient network
      [.ofTwo [Signature.ofNat 1, Signature.ofNat 2], .ofTwo [Signature.ofNat 3, Signature.ofNat 2],
        .ofTwo [Signature.ofNat 4, Signature.ofNat 2]]).runFrom (World.start { Script.plain with
          endings := [⟨some 1, some .timeout, none, none⟩, ⟨some 10, none, none, none⟩] })
    run.1.map List.length = .error .timeout ∧ run.2.now = 1 ∧
      ((run.2.advance network 40).trace.filter (·.sentBytes?.isSome)).map (·.time) =
        [0, 0, 0, 3, 6, 9] := by
  decide +kernel

end SolanaTransactions
