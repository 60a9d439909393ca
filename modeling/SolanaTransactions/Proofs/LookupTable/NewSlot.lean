/-
Module: SolanaTransactions.Proofs.LookupTable.NewSlot
Purpose: An extension that awaits a new slot returns with the first reply behind all its confirmations.
Main exports:
  World.slotReplies, submitAll_unasked, FirstPast, runFrom_awaitSlotAfter_eq_ok_iff,
  submitExtension, exists_chronicle_submitExtension, extendTable_awaits_newSlot
-/
import Mathlib.Order.Basic
import SolanaTransactions.Proofs.LookupTable.Covering

namespace SolanaTransactions

/-!
Up to its last confirmation an extension never asks for the slot.  From then on the
replies that it would get, with half a slot between two questions, are a sequence
that depends on the state only.  The wait reads this sequence from its front and
ends with the first reply that tells a slot behind those of all confirmations, or
goes on for as long as there is none.
-/

variable {ε : Type}

/-! ### Questions for the slot -/

/-- The reply that an event tells, when it is a question for the slot. -/
def TraceEntry.slotReply? (entry : TraceEntry) : Option (Except Fault Int) :=
  match entry.event with
  | .slotAsked _ reply => some reply
  | _ => none

/-- The steps of flights are no questions for the slot. -/
theorem Flight.slotReply?_event (flight : Flight) (time : Rat) :
    TraceEntry.slotReply? ⟨time, flight.event⟩ = none := by
  rw [TraceEntry.slotReply?, event]
  cases flight.move with
  | takeOff signature => rfl
  | resend => rfl
  | land landing => rfl

namespace World

/-- The replies to all questions for the slot so far. -/
def slotReplies (world : World ε) : List (Except Fault Int) :=
  world.trace.filterMap TraceEntry.slotReply?

/-- The slot was not asked for. -/
def Unasked (before after : World ε) : Prop := after.slotReplies = before.slotReplies

instance : IsPreorder (World ε) Unasked where
  refl _ := rfl
  trans _ _ _ first second := Eq.trans second first

theorem slotReplies_tick (network : Network ε) (world : World ε) (flight : Flight)
    (others : List Flight) : (world.tick network flight others).slotReplies = world.slotReplies := by
  rw [slotReplies, trace_tick, List.filterMap_append, List.filterMap_cons, flight.slotReply?_event,
    List.filterMap_nil, List.append_nil, slotReplies]

theorem slotReplies_depart (network : Network ε) (world : World ε) (flight : Flight) :
    (world.depart network flight).slotReplies = world.slotReplies := by
  obtain ⟨entries, trace, same⟩ := world.exists_trace_depart network flight
  have silent : entries.filterMap TraceEntry.slotReply? = [] := by
    refine List.filterMap_eq_nil_iff.2 fun entry member => ?_
    rw [same entry member, flight.slotReply?_event]
  rw [slotReplies, trace, List.filterMap_append, silent, List.append_nil, slotReplies]

theorem slotReplies_advance (network : Network ε) (target : Rat) (world : World ε) :
    (world.advance network target).slotReplies = world.slotReplies := by
  fun_induction advance network target world with
  | case1 => rfl
  | case2 world flight others _ _ _ ih => rw [ih, slotReplies_tick]
  | case3 => rfl

theorem slotReplies_settle (network : Network ε) (awaited : List Nat) (world : World ε) :
    (world.settle network awaited).slotReplies = world.slotReplies := by
  fun_induction settle network awaited world with
  | case1 => rfl
  | case2 world _ flight others _ _ ih => rw [ih, slotReplies_tick]
  | case3 => rfl

theorem ExtendsBy.unasked {before after : World ε} (grown : ExtendsBy Event.Prepares before after) :
    Unasked before after := by
  obtain ⟨environment, entries, rfl, kinds⟩ := grown
  have silent : entries.filterMap TraceEntry.slotReply? = [] := by
    apply List.filterMap_eq_nil_iff.2
    intro entry member
    rcases (kinds entry member).2 with ⟨commitment, asks⟩ | ⟨name, key, transactions, signs⟩
    · rw [TraceEntry.slotReply?, asks]
    · rw [TraceEntry.slotReply?, signs]
  simp [Unasked, slotReplies, silent]

end World

namespace Submission

theorem beginSend_unasked (scheme : SignatureScheme) (network : Network ε)
    (submission : Submission) (options : SendOptions) :
    (submission.beginSend scheme network options).Moves World.Unasked := by
  rw [beginSend]
  split
  · exact .pure _
  · refine .bind (fun world => ?_) fun _ _ => rfl
    exact List.filterMap_append.trans (List.append_nil _)

theorem launchBeside_unasked (scheme : SignatureScheme) (network : Network ε)
    (submission : Submission) :
    (submission.launchBeside scheme network).Moves World.Unasked :=
  .bind (fun _ => rfl) fun _ => .bind (beginSend_unasked scheme network submission _)
    fun _ world => world.slotReplies_depart network _

end Submission

/-- Submitting transactions and awaiting all of them takes no question for the slot. -/
theorem submitAll_unasked (scheme : SignatureScheme) (network : Network ε)
    (submissions : List Submission) : (submitAll scheme network submissions).Moves World.Unasked := by
  refine .bind (.mapM fun submission _ =>
    Submission.launchBeside_unasked scheme network submission) fun numbers world => ?_
  rw [runFrom_awaitReceipts]
  exact world.slotReplies_settle network numbers

/-! ### The wait -/

/-- A reply is the first one with a slot that passes a test: those before it tell slots that do not. -/
def FirstPast (past : Int → Prop) (replies : Nat → Except Fault Int) (position : Nat) : Prop :=
  (∃ slot, replies position = .ok slot ∧ past slot) ∧
    ∀ earlier < position, ∃ slot, replies earlier = .ok slot ∧ ¬past slot

section FirstPast

variable {past : Int → Prop} {replies : Nat → Except Fault Int}

theorem firstPast_zero_iff :
    FirstPast past replies 0 ↔ ∃ slot, replies 0 = .ok slot ∧ past slot := by
  simp [FirstPast]

/-- When some reply is the first that passes, the very first reply tells a slot. -/
theorem FirstPast.tells {position : Nat} (first : FirstPast past replies position) :
    ∃ slot, replies 0 = .ok slot := by
  cases position with
  | zero =>
      obtain ⟨slot, told, _⟩ := first.1
      exact ⟨slot, told⟩
  | succ position =>
      obtain ⟨slot, told, _⟩ := first.2 0 (Nat.succ_pos position)
      exact ⟨slot, told⟩

theorem firstPast_succ_iff {position : Nat} :
    FirstPast past replies (position + 1) ↔ (∃ slot, replies 0 = .ok slot ∧ ¬past slot) ∧
      FirstPast past (fun later => replies (later + 1)) position := by
  constructor
  · rintro ⟨passes, before⟩
    exact ⟨before 0 (Nat.succ_pos _), passes,
      fun earlier inside => before (earlier + 1) (Nat.succ_lt_succ inside)⟩
  · rintro ⟨first, passes, before⟩
    refine ⟨passes, fun earlier inside => ?_⟩
    cases earlier with
    | zero => exact first
    | succ earlier => exact before earlier (Nat.lt_of_succ_lt_succ inside)

/-- When every reply tells a slot, a first one passes as soon as any does. -/
theorem exists_firstPast_iff (told : ∀ position, ∃ slot, replies position = .ok slot) :
    (∃ position, FirstPast past replies position) ↔
      ∃ position slot, replies position = .ok slot ∧ past slot := by
  classical
  constructor
  · rintro ⟨position, passes, _⟩
    exact ⟨position, passes⟩
  · intro some
    refine ⟨Nat.find some, Nat.find_spec some, fun earlier inside => ?_⟩
    obtain ⟨slot, reply⟩ := told earlier
    exact ⟨slot, reply, fun passes => Nat.find_min some inside ⟨slot, reply, passes⟩⟩

end FirstPast

namespace World

variable (network : Network ε) (commitment : Commitment)

/-- The state after a question for the slot. -/
def slotAsked (world : World ε) : World ε :=
  ((Client.slot network (some commitment)).runFrom world).2

/-- The state in which the slot is asked for again: half a slot after a question. -/
def nextQuestion (world : World ε) : World ε :=
  let asked := world.slotAsked network commitment
  asked.advance network (asked.now + elapsed (millisecondsPerSlot / 2 / 1000))

/-- The state in which the slot is asked for after as many earlier questions. -/
def atQuestion (world : World ε) (position : Nat) : World ε :=
  (nextQuestion network commitment)^[position] world

/-- The reply to the question after as many earlier ones. -/
def slotReplyAt (world : World ε) (position : Nat) : Except Fault Int :=
  (network.slot (some commitment) (world.atQuestion network commitment position).environment).1

/-- The state after the question that follows as many earlier ones. -/
def answeredAt (world : World ε) (position : Nat) : World ε :=
  (world.atQuestion network commitment position).slotAsked network commitment

variable {network commitment}

theorem slotReplies_slotAsked (world : World ε) :
    (world.slotAsked network commitment).slotReplies =
      world.slotReplies ++ [(network.slot (some commitment) world.environment).1] :=
  List.filterMap_append

theorem slotReplies_atQuestion (world : World ε) (position : Nat) :
    (world.atQuestion network commitment position).slotReplies =
      world.slotReplies ++ (List.range position).map (world.slotReplyAt network commitment) := by
  induction position with
  | zero => simp [atQuestion]
  | succ position ih =>
      have again : world.atQuestion network commitment (position + 1) =
          (world.atQuestion network commitment position).nextQuestion network commitment :=
        Function.iterate_succ_apply' _ _ _
      rw [again, nextQuestion, slotReplies_advance, slotReplies_slotAsked, ih]
      simp [List.range_succ, slotReplyAt]

/-- Up to the question at a position, the replies are those of the sequence. -/
theorem slotReplies_answeredAt (world : World ε) (position : Nat) :
    (world.answeredAt network commitment position).slotReplies = world.slotReplies ++
      (List.range (position + 1)).map (world.slotReplyAt network commitment) := by
  rw [answeredAt, slotReplies_slotAsked, slotReplies_atQuestion]
  simp [List.range_succ, slotReplyAt]

end World

section Wait

variable {network : Network ε} {commitment : Commitment} {slot : Int}

theorem runFrom_slot (world : World ε) :
    (Client.slot network (some commitment)).runFrom world =
      (world.slotReplyAt network commitment 0, world.slotAsked network commitment) := rfl

/-- One question of the wait. -/
theorem runFrom_awaitSlotAfter_succ (patience : Nat) (world : World ε) :
    (awaitSlotAfter network commitment slot (patience + 1)).runFrom world =
      match world.slotReplyAt network commitment 0 with
      | .error fault => (.error fault, world.slotAsked network commitment)
      | .ok current =>
          if current ≤ slot then
            (awaitSlotAfter network commitment slot patience).runFrom
              (world.nextQuestion network commitment)
          else (.ok (), world.slotAsked network commitment) := by
  rw [awaitSlotAfter, Client.runFrom_bind, runFrom_slot]
  cases world.slotReplyAt network commitment 0 with
  | error fault => rfl
  | ok current =>
      dsimp only
      split
      · rw [Client.runFrom_bind]
        rfl
      · rfl

/-- The wait returns with the first reply behind a slot, if it comes in time. -/
theorem runFrom_awaitSlotAfter_eq_ok_iff {patience : Nat} {world after : World ε} :
    (awaitSlotAfter network commitment slot patience).runFrom world = (.ok (), after) ↔
      ∃ position < patience,
        FirstPast (slot < ·) (world.slotReplyAt network commitment) position ∧
          after = world.answeredAt network commitment position := by
  induction patience generalizing world with
  | zero =>
      rw [awaitSlotAfter, Client.runFrom_throw]
      simp
  | succ patience ih =>
      rw [runFrom_awaitSlotAfter_succ]
      cases reply : world.slotReplyAt network commitment 0 with
      | error fault =>
          constructor
          · intro stopped
            cases stopped
          · rintro ⟨position, _, first, _⟩
            obtain ⟨slot, told⟩ := first.tells
            rw [reply] at told
            contradiction
      | ok current =>
          dsimp only
          split
          · next early =>
              rw [ih]
              constructor
              · rintro ⟨position, inside, first, rfl⟩
                exact ⟨position + 1, Nat.succ_lt_succ inside,
                  firstPast_succ_iff.2 ⟨⟨current, reply, not_lt.2 early⟩, first⟩, rfl⟩
              · rintro ⟨position, inside, first, rfl⟩
                cases position with
                | zero =>
                    obtain ⟨_, told, passes⟩ := firstPast_zero_iff.1 first
                    obtain rfl := Except.ok.inj (reply.symm.trans told)
                    exact absurd passes (not_lt.2 early)
                | succ position =>
                    exact ⟨position, Nat.lt_of_succ_lt_succ inside, (firstPast_succ_iff.1 first).2,
                      rfl⟩
          · next late =>
              constructor
              · rintro ended
                obtain ⟨_, rfl⟩ := Prod.mk.inj ended
                exact ⟨0, Nat.succ_pos _, firstPast_zero_iff.2 ⟨current, reply, not_le.1 late⟩, rfl⟩
              · rintro ⟨position, _, first, rfl⟩
                cases position with
                | zero => rfl
                | succ position =>
                    obtain ⟨⟨_, told, fails⟩, _⟩ := firstPast_succ_iff.1 first
                    obtain rfl := Except.ok.inj (reply.symm.trans told)
                    exact absurd (not_le.1 late) fails

end Wait

/-- A slot lies behind the newest one of some receipts when it lies behind all of them. -/
theorem Receipt.exists_newestSlot {receipts : List Receipt} (some : receipts ≠ []) :
    ∃ newest, newestSlot? receipts = .some newest ∧
      ∀ slot, newest < slot ↔ ∀ receipt ∈ receipts, receipt.slot < slot := by
  cases receipts with
  | nil => contradiction
  | cons first rest =>
      refine ⟨_, rfl, ?_⟩
      suffices fold : ∀ newest slot, rest.foldl (fun newest other =>
          if newest < other.slot then other.slot else newest) newest < slot ↔
            newest < slot ∧ ∀ receipt ∈ rest, receipt.slot < slot by
        intro slot
        rw [fold, List.forall_mem_cons]
      clear some
      induction rest with
      | nil => simp
      | cons second rest ih =>
          intro newest slot
          rw [List.foldl_cons, ih, List.forall_mem_cons, ← and_assoc]
          apply and_congr_left
          intro _
          split
          · omega
          · omega

/-! ### Up to the confirmations -/

section Extension

variable (scheme : SignatureScheme) (network : Network ε) (table : Key)
  (authority payer : Signer ε) (addresses : List Key) (options : TableOptions)

/-- The part of an extension that ends with the receipts of its transactions. -/
def submitExtension : Client ε (Except PackingError (List Receipt)) :=
  buildExtension scheme network table authority payer addresses options >>= fun outcome =>
    match outcome with
    | .error error => pure (.error error)
    | .ok built =>
        submitAll scheme network (built.map (Submission.standard options.submission)) >>=
          fun receipts => pure (.ok receipts)

variable {scheme network table authority payer addresses options}
variable {world confirmed : World ε} {receipts : List Receipt}

/-- An extension with receipts has built its transactions and then submitted them. -/
theorem of_runFrom_submitExtension
    (confirms : (submitExtension scheme network table authority payer addresses options).runFrom
      world = (.ok (.ok receipts), confirmed)) :
    ∃ built between,
      (buildExtension scheme network table authority payer addresses options).runFrom world =
        (.ok (.ok built), between) ∧
      (submitAll scheme network (built.map (Submission.standard options.submission))).runFrom
        between = (.ok receipts, confirmed) := by
  obtain ⟨outcome, between, builds, later⟩ := Client.runFrom_bind_eq_ok.1 confirms
  cases outcome with
  | error error => exact nomatch (Client.of_runFrom_pure later).1
  | ok built =>
      obtain ⟨_, _, submits, done⟩ := Client.runFrom_bind_eq_ok.1 later
      obtain ⟨same, rfl⟩ := Client.of_runFrom_pure done
      obtain rfl := Except.ok.inj same
      exact ⟨built, between, builds, submits⟩

/-- With the receipts there, what is left of an extension is its conclusion. -/
theorem runFrom_extendTable_of_receipts (fits : addresses.length ≤ lookupTableCapacity)
    (confirms : (submitExtension scheme network table authority payer addresses options).runFrom
      world = (.ok (.ok receipts), confirmed)) (patience : Nat) :
    (extendTable scheme network table authority payer addresses options patience).runFrom world =
      (concludeExtension network table options patience receipts).runFrom confirmed := by
  obtain ⟨built, between, builds, submits⟩ := of_runFrom_submitExtension confirms
  rw [extendTable_eq _ _ _ _ _ _ _ _ fits, Client.runFrom_bind, builds]
  dsimp only
  rw [Client.runFrom_bind, submits]

/-- An extension by some addresses takes transactions. -/
theorem ne_nil_of_buildExtension {built : List Prepared} {between : World ε}
    (nonempty : addresses ≠ [])
    (builds : (buildExtension scheme network table authority payer addresses options).runFrom
      world = (.ok (.ok built), between)) : built ≠ [] := by
  obtain ⟨batches, packed, calls⟩ := exists_batches_of_extension table authority payer addresses
  rw [buildExtension_eq table authority payer addresses scheme network options packed] at builds
  obtain ⟨signed, after, signs, done⟩ := Client.runFrom_bind_eq_ok.1 builds
  obtain ⟨same, _⟩ := Client.of_runFrom_pure done
  obtain rfl : signed = built := Except.ok.inj same
  have count := length_of_buildAndSign ⟨world, congrArg Prod.fst signs⟩
  rintro rfl
  obtain rfl : batches = [] := by simpa using count.symm
  have pieces : chunksOf extensionChunk addresses = [] := by
    simpa [extensionCalls] using calls.symm
  have whole := flatten_chunksOf (by decide : 0 < extensionChunk) addresses
  rw [pieces] at whole
  exact nonempty whole.symm

/-- A receipt tells the confirmation with which a flight of a transaction has landed in one of the
steps, a flight whose number is at least the given one. -/
def Receipt.Tells (receipt : Receipt) (prepared : Prepared) (number : Nat) (steps : List Step) :
    Prop :=
  ∃ tick signature confirmation, .flight tick ∈ steps ∧ number ≤ tick.flight.number ∧
    tick.flight.raw = prepared.transaction.toBytes ∧
    tick.flight.move = .land ⟨signature, .ok confirmation⟩ ∧
    receipt = Receipt.ofConfirmation signature confirmation

/-- The receipts of an extension tell the confirmations of its transactions, one for each, and the
slot was not asked for. -/
theorem exists_chronicle_submitExtension (sound : world.Sound) (nonempty : addresses ≠ [])
    (confirms : (submitExtension scheme network table authority payer addresses options).runFrom
      world = (.ok (.ok receipts), confirmed)) :
    let built := builtExtension scheme network table authority payer addresses options world
    (built ≠ [] ∧ ∃ steps, World.Chronicle
        (ExtensionSends scheme network table authority payer addresses options world) world steps
        confirmed ∧
      List.Forall₂ (fun prepared receipt => Receipt.Tells receipt prepared world.nextNumber steps)
        built receipts) ∧
      World.Unasked world confirmed := by
  intro built
  obtain ⟨prepared, between, builds, submits⟩ := of_runFrom_submitExtension confirms
  have same : built = prepared := by
    simp only [built, builtExtension, builds]
  have moved : World.ExtendsBy Event.Prepares world between :=
    (buildExtension_moves scheme network table authority payer addresses options).leads builds
  have launches : ∀ submission ∈ prepared.map (Submission.standard options.submission),
      ExtensionSends scheme network table authority payer addresses options world
        submission.raw := by
    rw [← same]
    exact fun _ member =>
      extensionSends_of_mem scheme network table authority payer addresses options member
  obtain ⟨early, building⟩ := moved.quiet.chronicled
    (ExtensionSends scheme network table authority payer addresses options world) sound
  obtain ⟨late, submitting, landed⟩ := exists_chronicle_submitAll building.sound launches submits
  refine ⟨⟨same ▸ ne_nil_of_buildExtension nonempty builds, early ++ late,
    building.trans submitting, ?told⟩, ?unasked⟩
  case told =>
    rw [same]
    refine (List.forall₂_map_left_iff.1 landed).imp ?_
    rintro one _ ⟨flight, ⟨signature, _⟩, confirmation, begins, lands, rfl, rfl⟩
    obtain ⟨tick, member, last, same⟩ := lands
    exact ⟨tick, signature, confirmation, List.mem_append_right _ member,
      same.number ▸ building.counts.trans begins.fresh, same.raw.symm.trans begins.raw, last, rfl⟩
  case unasked =>
    have second : World.Unasked between confirmed :=
      (submitAll_unasked scheme network _).leads submits
    exact IsTrans.trans _ _ _ moved.unasked second

/-! ### The conclusion -/

theorem Receipt.firstError?_of_failed {error : String} {receipt : Receipt}
    (member : receipt ∈ receipts) (failed : receipt.result = .error error) :
    ∃ first, firstError? receipts = some first := by
  apply Option.isSome_iff_exists.1
  rw [firstError?, List.findSome?_isSome_iff]
  exact ⟨receipt, member, by simp [failed]⟩

theorem Receipt.firstError?_of_fine
    (fine : ∀ receipt ∈ receipts, ∃ signature, receipt.result = .ok signature) :
    firstError? receipts = none := by
  apply List.findSome?_eq_none_iff.2
  intro receipt member
  obtain ⟨signature, succeeded⟩ := fine receipt member
  simp [succeeded]

/-- With every receipt fine, the conclusion names the table with the first reply behind all of them, if
it comes in time. -/
theorem runFrom_concludeExtension_eq_ok_iff {patience : Nat} {result : Except String Key}
    {after : World ε} (awaits : options.awaitNewSlot = true) (some : receipts ≠ [])
    (fine : ∀ receipt ∈ receipts, ∃ signature, receipt.result = .ok signature) :
    let commitment := Commitment.firstGiven [options.submission.commitment]
    (concludeExtension network table options patience receipts).runFrom confirmed =
        (.ok result, after) ↔
      result = .ok table ∧ ∃ position < patience,
        FirstPast (fun slot => ∀ receipt ∈ receipts, receipt.slot < slot)
            (confirmed.slotReplyAt network commitment) position ∧
          after = confirmed.answeredAt network commitment position := by
  intro commitment
  obtain ⟨newest, known, behind⟩ := Receipt.exists_newestSlot some
  have test : (fun slot => newest < slot) =
      fun slot => ∀ receipt ∈ receipts, receipt.slot < slot :=
    funext fun slot => propext (behind slot)
  rw [concludeExtension, Receipt.firstError?_of_fine fine, awaits, known, ← test]
  dsimp only
  rw [Client.runFrom_bind_eq_ok]
  constructor
  · rintro ⟨_, between, waits, done⟩
    obtain ⟨rfl, rfl⟩ := Client.of_runFrom_pure done
    exact ⟨rfl, runFrom_awaitSlotAfter_eq_ok_iff.1 waits⟩
  · rintro ⟨rfl, first⟩
    exact ⟨(), after, runFrom_awaitSlotAfter_eq_ok_iff.2 first, rfl⟩

/-- With a failed receipt, the conclusion is an error of that moment. -/
theorem runFrom_concludeExtension_of_failed {receipt : Receipt} {error : String}
    (member : receipt ∈ receipts) (failed : receipt.result = .error error) :
    ∃ message, ∀ patience,
      (concludeExtension network table options patience receipts).runFrom confirmed =
        (.ok (.error message), confirmed) := by
  obtain ⟨first, known⟩ := Receipt.firstError?_of_failed member failed
  refine ⟨"Failed to extend address lookup table: " ++ first, fun patience => ?_⟩
  rw [concludeExtension, known]
  rfl

/-- When the transactions of an extension have been confirmed and it awaits a new slot, it returns an
error without a question for the slot if one of them has failed.  Otherwise it returns its table with
the first reply that tells a slot behind those of all confirmations, and asks up to this reply only:
with such a reply in sight it returns, and without one it never does. -/
theorem extendTable_awaits_newSlot (sound : world.Sound) (nonempty : addresses ≠ [])
    (fits : addresses.length ≤ 256) (awaits : options.awaitNewSlot = true)
    (confirms : (submitExtension scheme network table authority payer addresses options).runFrom
      world = (.ok (.ok receipts), confirmed)) :
    let built := builtExtension scheme network table authority payer addresses options world
    let replies := confirmed.slotReplyAt network
      (Commitment.firstGiven [options.submission.commitment])
    let past (slot : Int) := ∀ receipt ∈ receipts, receipt.slot < slot
    let run (patience : Nat) :=
      (extendTable scheme network table authority payer addresses options patience).runFrom world
    (built ≠ [] ∧ ∃ steps, World.Chronicle
        (ExtensionSends scheme network table authority payer addresses options world) world steps
        confirmed ∧
      List.Forall₂ (fun prepared receipt => Receipt.Tells receipt prepared world.nextNumber steps)
        built receipts) ∧
    confirmed.slotReplies = world.slotReplies ∧
    (∀ receipt ∈ receipts, ∀ error, receipt.result = .error error →
      ∃ message, ∀ patience, run patience = (.ok (.error message), confirmed)) ∧
    ((∀ receipt ∈ receipts, ∃ signature, receipt.result = .ok signature) →
      (∀ patience result, (run patience).1 = .ok result ↔
        result = .ok table ∧ ∃ position < patience, FirstPast past replies position) ∧
      (∀ patience position, position < patience → FirstPast past replies position →
        (run patience).2.slotReplies =
          world.slotReplies ++ (List.range (position + 1)).map replies) ∧
      ((∀ position, ∃ slot, replies position = .ok slot) →
        ((∃ patience, (run patience).1 = .ok (.ok table)) ↔
          ∃ position slot, replies position = .ok slot ∧ past slot))) := by
  intro built replies past run
  obtain ⟨told, unasked⟩ := exists_chronicle_submitExtension sound nonempty confirms
  have concludes : ∀ patience, run patience = _ := runFrom_extendTable_of_receipts fits confirms
  refine ⟨told, unasked, ?failed, fun fine => ?fine⟩
  case failed =>
    intro receipt member error failed
    obtain ⟨message, ended⟩ := runFrom_concludeExtension_of_failed member failed
    exact ⟨message, fun patience => (concludes patience).trans (ended patience)⟩
  case fine =>
    have some : receipts ≠ [] := by
      obtain ⟨some, _, _, each⟩ := told
      rintro rfl
      exact some (List.forall₂_nil_right_iff.1 each)
    have returns : ∀ patience result after, run patience = (.ok result, after) ↔
        result = .ok table ∧ ∃ position < patience, FirstPast past replies position ∧
          after = confirmed.answeredAt network
            (Commitment.firstGiven [options.submission.commitment]) position := by
      intro patience result after
      rw [concludes]
      exact runFrom_concludeExtension_eq_ok_iff awaits some fine
    have returnsFirst : ∀ patience result, (run patience).1 = .ok result ↔
        result = .ok table ∧ ∃ position < patience, FirstPast past replies position := by
      intro patience result
      constructor
      · intro returned
        obtain ⟨rfl, position, inside, first, _⟩ :=
          (returns patience result _).1 (Prod.ext returned rfl)
        exact ⟨rfl, position, inside, first⟩
      · rintro ⟨rfl, position, inside, first⟩
        exact congrArg Prod.fst
          ((returns patience (.ok table) _).2 ⟨rfl, position, inside, first, rfl⟩)
    refine ⟨returnsFirst, ?count, fun slots => ?ends⟩
    case count =>
      intro patience position inside first
      have returned := (returns patience (.ok table) _).2 ⟨rfl, position, inside, first, rfl⟩
      rw [returned, World.slotReplies_answeredAt, unasked]
    case ends =>
      rw [← exists_firstPast_iff slots]
      constructor
      · rintro ⟨patience, returned⟩
        obtain ⟨_, position, _, first⟩ := (returnsFirst patience _).1 returned
        exact ⟨position, first⟩
      · rintro ⟨position, first⟩
        exact ⟨position + 1, (returnsFirst _ _).2 ⟨rfl, position, Nat.lt_succ_self _, first⟩⟩

end Extension

/-- Two transactions that are confirmed in the reverse order, the first one at the later slot. -/
def confirmedInReverse : Script :=
  { Script.plain with
    slot := 118
    endings := [⟨some 5, none, some 120, none⟩, ⟨some 1, none, some 110, none⟩] }

/-- An extension by forty addresses that awaits a new slot asks three times: the slots 119 and 120 are
not behind both confirmations. -/
theorem extendTable_awaits_newSlot_reverse :
    let authority : Signer Script := .near .lenient "authority" 2
    let payer : Signer Script := .near .lenient "payer" 1
    let addresses := (List.range 40).map fun number => Key.ofNat (1000 + number)
    let options : TableOptions := ⟨⟨none, none⟩, true⟩
    let start := World.start confirmedInReverse
    let submitted := (submitExtension .lenient Script.network (Key.ofNat 90) authority payer
      addresses options).runFrom start
    (start.Sound ∧ addresses ≠ [] ∧ addresses.length ≤ 256 ∧ options.awaitNewSlot = true ∧
      ∃ receipts, submitted.1 = .ok (.ok receipts) ∧ receipts.map (·.slot) = [120, 110]) ∧
    ∀ patience, 3 ≤ patience →
      let run := (extendTable .lenient Script.network (Key.ofNat 90) authority payer addresses
        options patience).runFrom start
      run.1 = .ok (.ok (Key.ofNat 90)) ∧
        run.2.slotReplies = [.ok 119, .ok 120, .ok 121] := by
  intro authority payer addresses options start submitted
  have sound : start.Sound := World.sound_start _
  have nonempty : addresses ≠ [] := by decide
  have short : addresses.length ≤ 256 := by decide
  have told : submitted.1.map (fun outcome => outcome.toOption.map fun receipts =>
      (receipts.map (·.slot), receipts.all (·.result.isOk))) = .ok (some ([120, 110], true)) := by
    decide +kernel
  obtain ⟨outcome, ran, known⟩ := map_eq_ok_iff.1 told
  obtain ⟨receipts, rfl⟩ : ∃ receipts, outcome = .ok receipts := by
    cases outcome with
    | error error => exact nomatch known
    | ok receipts => exact ⟨receipts, rfl⟩
  obtain ⟨slots, succeeded⟩ := Prod.mk.inj (Option.some.inj known)
  have fine : ∀ receipt ∈ receipts, ∃ signature, receipt.result = .ok signature :=
    fun receipt member => isOk_iff.1 (List.all_eq_true.1 succeeded receipt member)
  obtain ⟨_, _, _, returns⟩ := extendTable_awaits_newSlot sound nonempty short rfl
    (Prod.ext ran rfl : submitted = (.ok (.ok receipts), submitted.2))
  obtain ⟨ends, count, _⟩ := returns fine
  have first : FirstPast (fun slot => ∀ receipt ∈ receipts, receipt.slot < slot)
      (submitted.2.slotReplyAt Script.network (Commitment.firstGiven [none])) 2 := by
    have test : (fun slot : Int => ∀ receipt ∈ receipts, receipt.slot < slot) =
        fun slot => ∀ other ∈ ([120, 110] : List Int), other < slot := by
      funext slot
      rw [← slots, List.forall_mem_map]
    rw [test]
    refine ⟨⟨121, by decide +kernel, by decide⟩, fun earlier inside => ?_⟩
    match earlier, inside with
    | 0, _ => exact ⟨119, by decide +kernel, by decide⟩
    | 1, _ => exact ⟨120, by decide +kernel, by decide⟩
  refine ⟨⟨sound, nonempty, short, rfl, receipts, ran, slots⟩, fun patience enough => ?_⟩
  refine ⟨(ends patience _).2 ⟨rfl, 2, enough, first⟩, (count patience 2 enough first).trans ?_⟩
  decide +kernel

end SolanaTransactions
