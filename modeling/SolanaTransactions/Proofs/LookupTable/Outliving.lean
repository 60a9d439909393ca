/-
Module: SolanaTransactions.Proofs.LookupTable.Outliving
Purpose: Which sends outlive the extension of a table.
Main exports:
  buildDynamic_moves, builtExtension, exists_chronicle_extendTable, extendTable_leaves,
  extendTable_sendsAgain_iff
-/
import SolanaTransactions.LookupTable.Maintenance
import SolanaTransactions.Proofs.Signing.Round
import SolanaTransactions.Proofs.Submission.Landing

namespace SolanaTransactions

/-!
The transactions of an extension are submitted side by side.  Building them sends
nothing, and once all submissions have returned nothing of them is in the air.
But when one submission fails, the extension stops at once and does not stop the
others: they are sent again until their own confirmations end.
-/

variable {ε : Type}

/-! ### Building -/

/-- Nothing has changed but the environment and the trace, and nothing was sent. -/
abbrev World.Extends (before after : World ε) : Prop := World.ExtendsBy Event.Quiet before after

/-- An event is a question for a blockhash, or a signer is handed transactions. -/
def Event.Prepares (event : Event) : Prop :=
  event.AsksBlockhash ∨ ∃ name key transactions, event = .signing name key transactions

theorem Event.Prepares.quiet {event : Event} (prepares : event.Prepares) : event.Quiet := by
  intro raw options sent
  rcases prepares with ⟨commitment, asks⟩ | ⟨name, key, transactions, signs⟩
  · rw [asks] at sent
    contradiction
  · rw [signs] at sent
    contradiction

theorem World.ExtendsBy.quiet {before after : World ε}
    (grown : World.ExtendsBy Event.Prepares before after) : World.Extends before after :=
  grown.mono fun _ prepares => prepares.quiet

theorem signEntry_moves (prepared : List Prepared) (entry : Registration ε) :
    (signEntry prepared entry).Moves (World.ExtendsBy Event.Prepares) := by
  rw [signEntry]
  cases entry.positions.mapM (placeOf? prepared.length) with
  | none => exact .throw _
  | some places =>
      refine .bind (.bind (.record (Or.inr ⟨_, _, _, rfl⟩)) fun _ => .ask _) fun signed => ?_
      split
      · exact .pure _
      · exact .throw _

theorem buildAndSign_moves (scheme : SignatureScheme) (network : Network ε) (payer : Signer ε)
    (plans : List (Plan ε)) :
    (buildAndSign scheme network payer plans).Moves (World.ExtendsBy Event.Prepares) := by
  rw [buildAndSign_eq]
  have asks : (buildMessages network (.signer payer) plans).Moves
      (World.ExtendsBy Event.Prepares) :=
    (buildMessages_moves network _ plans).mono fun _ _ grown => grown.mono fun _ => Or.inl
  refine .bind asks fun made => ?_
  rw [signPrepared_eq]
  refine .bind (.foldlM fun entry _ current => signEntry_moves current entry) fun signed => ?_
  exact .bind (.ofExcept _) fun _ => .pure _

section

variable {relation : World ε → World ε → Prop} [IsPreorder (World ε) relation]

theorem Producer.resolve_moves {producers : List (Producer ε)} {funder : Signer ε}
    (each : ∀ producer ∈ producers, (producer funder).Moves relation) :
    (Producer.resolve producers funder).Moves relation := by
  refine .bind (.gather fun operation member => ?_) fun _ => .pure _
  obtain ⟨producer, inProducers, rfl⟩ := List.mem_map.1 member
  exact each producer inProducers

theorem packProduced_moves {job : DynamicJob ε}
    (stream : ∀ producer ∈ job.producers, (producer job.payer).Moves relation)
    (before : ∀ producer ∈ job.before, (producer job.payer).Moves relation)
    (after : ∀ producer ∈ job.after, (producer job.payer).Moves relation) :
    (packProduced job).Moves relation :=
  .bind (Producer.resolve_moves stream) fun _ => .bind (Producer.resolve_moves before) fun _ =>
    .bind (Producer.resolve_moves after) fun _ => .pure _

end

theorem buildDynamic_moves (scheme : SignatureScheme) (network : Network ε)
    (source : BlockhashSource) {job : DynamicJob ε}
    (packs : (packProduced job).Moves (World.ExtendsBy Event.Prepares)) :
    (buildDynamic scheme network source job).Moves (World.ExtendsBy Event.Prepares) := by
  refine .bind packs fun packed => ?_
  cases packed with
  | error _ => exact .pure _
  | ok batches => exact .bind (buildAndSign_moves scheme network _ _) fun _ => .pure _

/-! ### The parts of an extension -/

variable (scheme : SignatureScheme) (network : Network ε) (table : Key)
  (authority payer : Signer ε) (addresses : List Key) (options : TableOptions) (patience : Nat)

/-- The transactions that extend a table, built and signed. -/
def buildExtension : Client ε (Except PackingError (List Prepared)) :=
  buildDynamic scheme network
    (.latest (some (Commitment.firstGiven [options.submission.commitment])))
    ⟨payer, (chunksOf extensionChunk addresses).map (extensionProducer table authority payer), [],
      [], [], defaultMaxInstructions⟩

/-- What is left to do for an extension once its receipts are there. -/
def concludeExtension (receipts : List Receipt) : Client ε (Except String Key) :=
  match Receipt.firstError? receipts with
  | some error => pure (.error ("Failed to extend address lookup table: " ++ error))
  | none => do
      match options.awaitNewSlot, Receipt.newestSlot? receipts with
      | true, some newest =>
          awaitSlotAfter network (Commitment.firstGiven [options.submission.commitment]) newest
            patience
      | _, _ => pure ()
      return .ok table

theorem extendTable_eq (fits : addresses.length ≤ lookupTableCapacity) :
    extendTable scheme network table authority payer addresses options patience =
      buildExtension scheme network table authority payer addresses options >>= fun outcome =>
        match outcome with
        | .error error => pure (.error ("Failed to build dynamic transactions: " ++ error.message))
        | .ok built =>
            submitAll scheme network (built.map (Submission.standard options.submission)) >>=
              concludeExtension network table options patience := by
  rw [extendTable, if_neg (Nat.not_lt.2 fits)]
  rfl

theorem buildExtension_moves :
    (buildExtension scheme network table authority payer addresses options).Moves
      (World.ExtendsBy Event.Prepares) := by
  refine buildDynamic_moves scheme network _ (packProduced_moves ?_ ?_ ?_)
  · intro producer member
    obtain ⟨piece, _, rfl⟩ := List.mem_map.1 member
    exact .pure _
  · exact fun _ none => nomatch none
  · exact fun _ none => nomatch none

theorem awaitSlotAfter_chronicled (bytes : Bytes → Prop) (commitment : Commitment) (slot : Int) :
    (awaitSlotAfter network commitment slot patience).Moves (World.Chronicled bytes) := by
  induction patience with
  | zero => exact .throw _
  | succ patience ih =>
      rw [awaitSlotAfter]
      refine .bind ((Client.Moves.slot network fun _ _ _ => nofun).mono fun _ _ grown =>
        grown.chronicled bytes) fun current => ?_
      split
      · exact .bind (Client.wait_chronicled bytes network _) fun _ => ih
      · exact .pure _

theorem concludeExtension_chronicled (bytes : Bytes → Prop) (receipts : List Receipt) :
    (concludeExtension network table options patience receipts).Moves
      (World.Chronicled bytes) := by
  rw [concludeExtension]
  split
  · exact .pure _
  · dsimp only
    split
    · exact .bind (awaitSlotAfter_chronicled network patience bytes _ _) fun _ => .pure _
    · exact .pure _

/-- An extension that concludes tells the first error of its receipts or names its table. -/
theorem of_concludeExtension {receipts : List Receipt} {result : Except String Key}
    (yields : (concludeExtension network table options patience receipts).Yields (.ok result)) :
    (∃ error, Receipt.firstError? receipts = some error ∧
        result = .error ("Failed to extend address lookup table: " ++ error)) ∨
      Receipt.firstError? receipts = none ∧ result = .ok table := by
  rw [concludeExtension] at yields
  split at yields
  · next error first =>
      exact Or.inl ⟨error, first, Except.ok.inj yields.of_pure⟩
  · next none =>
      refine Or.inr ⟨none, ?_⟩
      dsimp only at yields
      split at yields
      · obtain ⟨_, _, last⟩ := yields.of_bind_ok
        exact Except.ok.inj last.of_pure
      · exact Except.ok.inj yields.of_pure

/-! ### The whole extension -/

/-- The transactions that an extension builds in a state, if it comes so far. -/
def builtExtension (world : World ε) : List Prepared :=
  match ((buildExtension scheme network table authority payer addresses options).runFrom world).1 with
  | .ok (.ok built) => built
  | _ => []

/-- An extension stops before it submits anything, or it submits what it has built and then
concludes unless a submission fails. -/
theorem extendTable_cases (world : World ε) :
    let run := (extendTable scheme network table authority payer addresses options
      patience).runFrom world
    let built := builtExtension scheme network table authority payer addresses options world
    World.Extends world run.2 ∧ (∀ key, run.1 ≠ .ok (.ok key)) ∨
      ∃ between outcome submitted, World.Extends world between ∧
      (submitAll scheme network (built.map (Submission.standard options.submission))).runFrom
        between = (outcome, submitted) ∧
      run = match outcome with
        | .error fault => (.error fault, submitted)
        | .ok receipts =>
            (concludeExtension network table options patience receipts).runFrom submitted := by
  intro run built
  by_cases fits : addresses.length ≤ lookupTableCapacity
  · have ran : run = _ := congrArg (·.runFrom world) (extendTable_eq scheme network table authority
      payer addresses options patience fits)
    have moved :=
      (buildExtension_moves scheme network table authority payer addresses options world).quiet
    rw [Client.runFrom_bind] at ran
    simp only [built, builtExtension]
    cases builds : (buildExtension scheme network table authority payer addresses options).runFrom
        world with
    | mk outcome between =>
        rw [builds] at ran moved
        match outcome with
        | .error fault => exact Or.inl (ran ▸ ⟨moved, nofun⟩)
        | .ok (.error error) => exact Or.inl (ran ▸ ⟨moved, nofun⟩)
        | .ok (.ok prepared) =>
            dsimp only at ran ⊢
            rw [Client.runFrom_bind] at ran
            cases submits : (submitAll scheme network
                (prepared.map (Submission.standard options.submission))).runFrom between with
            | mk outcome submitted =>
                rw [submits] at ran
                refine Or.inr ⟨between, outcome, submitted, moved, submits, ?_⟩
                cases outcome with
                | error fault => exact ran
                | ok receipts => exact ran
  · obtain ⟨message, refuses⟩ : ∃ message, run = (.ok (.error message), world) := by
      simp only [run, extendTable, if_pos (Nat.not_le.1 fits)]
      exact ⟨_, rfl⟩
    rw [refuses]
    exact Or.inl ⟨refl world, nofun⟩

/-- The bytes are those of one of the transactions that an extension builds in a state. -/
def ExtensionSends (world : World ε) (raw : Bytes) : Prop :=
  ∃ prepared ∈ builtExtension scheme network table authority payer addresses options world,
    raw = prepared.transaction.toBytes

theorem Receipt.error_eq_none_of_firstError? {receipts : List Receipt} {signature : Signature}
    {confirmation : Confirmation} (fine : firstError? receipts = none)
    (member : ofConfirmation signature confirmation ∈ receipts) : confirmation.error = none := by
  have here := List.findSome?_eq_none_iff.1 fine _ member
  cases error : confirmation.error with
  | none => rfl
  | some text =>
      rw [ofConfirmation, error] at here
      contradiction

/-- When no receipt tells an error, each transaction is confirmed in one of the steps. -/
theorem Prepared.confirmedIn_of_receipts {built : List Prepared} {receipts : List Receipt}
    {number : Nat} {steps : List Step} {options : SubmissionOptions}
    (landed : List.Forall₂ (fun prepared receipt => ∃ flight landing confirmation,
      (Submission.standard options prepared).Begins number flight ∧ flight.LandsIn landing steps ∧
        landing.outcome = .ok confirmation ∧
        receipt = Receipt.ofConfirmation landing.signature confirmation) built receipts)
    (fine : Receipt.firstError? receipts = none) {prepared : Prepared} (member : prepared ∈ built) :
    prepared.ConfirmedIn number steps := by
  obtain ⟨_, inReceipts, flight, landing, ⟨slot, error⟩, begins, lands, outcome, rfl⟩ :=
    exists_mem_of_forall₂ landed member
  obtain rfl : error = none := Receipt.error_eq_none_of_firstError? fine inReceipts
  obtain ⟨tick, inSteps, same, ends⟩ := lands.exists_ends
  rw [begins.raw, outcome] at ends
  exact ⟨tick, slot, inSteps, same ▸ begins.fresh, ends⟩

/-- What an extension submits are the transactions that it has built. -/
theorem extensionSends_of_mem {world : World ε} {submission : Submission}
    (member : submission ∈ (builtExtension scheme network table authority payer addresses options
      world).map (Submission.standard options.submission)) :
    ExtensionSends scheme network table authority payer addresses options world submission.raw := by
  obtain ⟨prepared, inBuilt, rfl⟩ := List.mem_map.1 member
  exact ⟨prepared, inBuilt, rfl⟩

/-- An extension that returns leaves nothing in the air that was not there before. -/
theorem extendTable_returns_landed {world : World ε} (sound : world.Sound)
    {result : Except String Key} {after : World ε}
    (returned : (extendTable scheme network table authority payer addresses options
      patience).runFrom world = (.ok result, after)) :
    ∀ flight ∈ after.flights, ∃ old ∈ world.flights, old.number = flight.number := by
  rcases extendTable_cases scheme network table authority payer addresses options patience world with
    ⟨stays, _⟩ | ⟨between, outcome, submitted, moved, submits, ran⟩
  · rw [returned] at stays
    intro flight member
    rw [stays.flights_eq] at member
    exact ⟨flight, member, rfl⟩
  · rw [returned] at ran
    cases outcome with
    | error fault => exact nomatch congrArg Prod.fst ran
    | ok receipts =>
        obtain ⟨_, builds⟩ := moved.chronicled (fun _ => True) sound
        obtain ⟨_, submitting⟩ := (submitAll_chronicled (fun _ => True) scheme network
          fun _ _ => trivial).leads submits builds.sound
        -- Nothing begins while an extension concludes.
        obtain ⟨_, concluding⟩ := (concludeExtension_chronicled network table options patience
          (fun _ => False) receipts).leads ran.symm submitting.sound
        intro flight member
        obtain ⟨landed, inSubmitted, same⟩ := concluding.exists_of_mem_flights member
        obtain ⟨old, inBetween, number⟩ :=
          exists_of_mem_flights_submitAll builds.sound submits landed inSubmitted
        rw [moved.flights_eq] at inBetween
        exact ⟨old, inBetween, number.trans same⟩

/-- An extension sends nothing but the transactions that it has built.  When it names its table, each
of them is confirmed without an error in one of the steps. -/
theorem exists_chronicle_extendTable {world : World ε} (sound : world.Sound) :
    let run := (extendTable scheme network table authority payer addresses options
      patience).runFrom world
    ∃ steps, World.Chronicle
        (ExtensionSends scheme network table authority payer addresses options world)
        world steps run.2 ∧
      ∀ key, run.1 = .ok (.ok key) → key = table ∧
        ∀ prepared ∈ builtExtension scheme network table authority payer addresses options world,
          prepared.ConfirmedIn world.nextNumber steps := by
  intro run
  let sends := ExtensionSends scheme network table authority payer addresses options world
  rcases extendTable_cases scheme network table authority payer addresses options patience world with
    ⟨stays, fails⟩ | ⟨between, outcome, submitted, moved, submits, ran⟩
  · obtain ⟨steps, chronicle⟩ := stays.chronicled sends sound
    exact ⟨steps, chronicle, fun key returned => absurd returned (fails key)⟩
  · obtain ⟨early, builds⟩ := moved.chronicled sends sound
    have launches : ∀ submission ∈ (builtExtension scheme network table authority payer addresses
        options world).map (Submission.standard options.submission), sends submission.raw :=
      fun _ member => extensionSends_of_mem scheme network table authority payer addresses options
        member
    cases outcome with
    | error fault =>
        obtain ⟨late, submitting⟩ :=
          (submitAll_chronicled sends scheme network launches).leads submits builds.sound
        rw [show run = _ from ran]
        exact ⟨early ++ late, builds.trans submitting, nofun⟩
    | ok receipts =>
        obtain ⟨middle, submitting, landed⟩ :=
          exists_chronicle_submitAll builds.sound launches submits
        obtain ⟨late, concluding⟩ := concludeExtension_chronicled network table options patience
          sends receipts submitted submitting.sound
        rw [show run = _ from ran]
        refine ⟨early ++ (middle ++ late), builds.trans (submitting.trans concluding),
          fun key returned => ?_⟩
        rcases of_concludeExtension network table options patience ⟨submitted, returned⟩ with
          ⟨_, _, told⟩ | ⟨fine, named⟩
        · contradiction
        · refine ⟨Except.ok.inj named, fun prepared member => ?_⟩
          have confirmed := Prepared.confirmedIn_of_receipts (List.forall₂_map_left_iff.1 landed) fine member
          exact confirmed.mono builds.counts fun step inMiddle =>
            List.mem_append_right _ (List.mem_append_left _ inMiddle)

/-- What an extension leaves in the air that was not there before is one of its transactions, and
nothing when it returns. -/
theorem extendTable_leaves {world : World ε} (sound : world.Sound) :
    let run := (extendTable scheme network table authority payer addresses options
      patience).runFrom world
    World.Begun (ExtensionSends scheme network table authority payer addresses options world)
        world run.2 ∧
      ∀ result, run.1 = .ok result →
        ∀ flight ∈ run.2.flights, ∃ old ∈ world.flights, old.number = flight.number := by
  intro run
  obtain ⟨_, chronicle, _⟩ := exists_chronicle_extendTable scheme network table authority payer
    addresses options patience sound
  exact ⟨chronicle.toBegun, fun result returned => extendTable_returns_landed scheme network table
    authority payer addresses options patience sound (Prod.ext returned rfl)⟩

/-- Left to itself, the state after an extension leads to another send of one of its transactions
exactly when the extension has stopped with a fault while such a transaction had time left for it:
it had a try left, and the next one was due before the end of its confirmation. -/
theorem extendTable_sendsAgain_iff {world : World ε} (sound : world.Sound) :
    let run := (extendTable scheme network table authority payer addresses options
      patience).runFrom world
    run.2.SendsAgain network world.nextNumber ↔
      (∃ fault, run.1 = .error fault) ∧
        ∃ flight ∈ run.2.flights, world.nextNumber ≤ flight.number ∧
          ExtensionSends scheme network table authority payer addresses options world flight.raw ∧
          run.2.LeavesTime network flight := by
  intro run
  obtain ⟨begun, returns⟩ := extendTable_leaves scheme network table authority payer addresses
    options patience sound
  have oldOrNew : ∀ flight : Flight, world.nextNumber ≤ flight.number →
      ¬∃ old ∈ world.flights, old.number = flight.number := by
    intro flight fresh ⟨old, member, same⟩
    have before := sound.number_lt member
    omega
  rw [begun.sound.sendsAgain_iff]
  constructor
  · intro ⟨flight, member, fresh, leaves⟩
    refine ⟨?_, flight, member, fresh, ?_, leaves⟩
    · cases outcome : run.1 with
      | error fault => exact ⟨fault, rfl⟩
      | ok result => exact absurd (returns result outcome flight member) (oldOrNew flight fresh)
    · rcases begun.flights flight member with ⟨old, inWorld, same⟩ | ⟨_, sends⟩
      · exact absurd ⟨old, inWorld, same.number⟩ (oldOrNew flight fresh)
      · exact sends
  · intro ⟨_, flight, member, fresh, _, leaves⟩
    exact ⟨flight, member, fresh, leaves⟩

/-- An extension by forty addresses, which takes two transactions. -/
def extensionByForty (script : Script) : Except Fault (Except String Key) × World Script :=
  (extendTable .lenient Script.network (Key.ofNat 90) (.near .lenient "authority" 2)
    (.near .lenient "payer" 1) ((List.range 40).map fun number => Key.ofNat (1000 + number))
    ⟨⟨none, none⟩, false⟩ 0).runFrom (World.start script)

/-- With both transactions confirmed nothing is sent again. -/
theorem extendTable_sendsAgain_iff_confirmed :
    (World.start Script.plain).Sound ∧ (extensionByForty Script.plain).1.isOk = true ∧
      ¬(extensionByForty Script.plain).2.SendsAgain Script.network 0 := by
  have returns : (extensionByForty Script.plain).1.isOk = true := by decide +kernel
  obtain ⟨result, returned⟩ := isOk_iff.1 returns
  refine ⟨World.sound_start _, returns, fun again => ?_⟩
  obtain ⟨⟨fault, stopped⟩, _⟩ :=
    (extendTable_sendsAgain_iff _ _ _ _ _ _ _ _ (World.sound_start Script.plain)).1 again
  exact nomatch returned.symm.trans stopped

/-- The first confirmation breaks off after a second, and the second one takes ten: the extension
stops, and the second transaction is sent again afterwards. -/
theorem extendTable_sends_after_fault :
    let run := extensionByForty { Script.plain with
      endings := [⟨some 1, some .timeout, none, none⟩, ⟨some 10, none, none, none⟩] }
    run.1 = .error .timeout ∧ run.2.SendsAgain Script.network 0 := by
  intro run
  refine ⟨by decide +kernel, ?_⟩
  have sound : run.2.Sound := (extendTable_leaves _ _ _ _ _ _ _ _ (World.sound_start _)).1.sound
  have waiting : ∃ flight ∈ run.2.flights, flight.resends = true :=
    List.any_eq_true.1 (by decide +kernel)
  obtain ⟨flight, member, resends⟩ := waiting
  exact sound.sendsAgain_iff.2
    ⟨flight, member, Nat.zero_le _, World.leavesTime_of_resends resends⟩

end SolanaTransactions
