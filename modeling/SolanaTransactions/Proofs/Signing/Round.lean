/-
Module: SolanaTransactions.Proofs.Signing.Round
Purpose: Who is asked to sign, in which order, for what, and what ends the asking.
Main exports:
  SigningCall, SigningCall.leave, runFrom_signEntry, SigningRound, exists_signingRound,
  buildAndSign_asks_in_order
-/
import SolanaTransactions.Proofs.Client.Moves
import SolanaTransactions.Proofs.Signing.Refilling
import SolanaTransactions.Proofs.Signing.Roster
import SolanaTransactions.Rehearsal.Conduct
import SolanaTransactions.Rehearsal.Script

namespace SolanaTransactions

/-!
A round of signers is a list of calls.  Each call is shown what the calls before
it have left at the places of its key, and the first call that is not answered in
full is the last one.  One equation says what asking one signer does; a round is
its iteration, as an inductive relation with one constructor for each exit.
-/

variable {ε : Type}

/-- One time that a signer is asked: who is asked, what is shown, and in which environment. -/
structure SigningCall (ε : Type) where
  signer : Signer ε
  shown : List Transaction
  environment : ε

namespace SigningCall

/-- What the signer gives back. -/
def answer (call : SigningCall ε) : Except Fault (List Transaction) :=
  (call.signer.respond call.shown call.environment).1

/-- The environment that the signer leaves. -/
def left (call : SigningCall ε) : ε := (call.signer.respond call.shown call.environment).2

/-- What others see of the call. -/
def event (call : SigningCall ε) : Event := .signing call.signer.name call.signer.key call.shown

/-- The signer gives back as many transactions as it was shown. -/
def Completes (call : SigningCall ε) : Prop :=
  ∃ answered, call.answer = .ok answered ∧ answered.length = call.shown.length

/-- The transactions after a call: at the places of the key there stand the answers. -/
def leave (places : Key → List Nat) (current : List Transaction) (call : SigningCall ε) :
    List Transaction :=
  match call.answer with
  | .ok answered => current.mapIdx fun place transaction =>
      (((places call.signer.key).zip answered).lookup place).getD transaction
  | .error _ => current

end SigningCall

/-! ### Places -/

namespace Prepared

/-- The transactions of a list of entries. -/
def transactions (prepared : List Prepared) : List Transaction := prepared.map (·.transaction)

theorem mapM_placeOf? {length : Nat} {places : List Nat}
    (valid : ∀ place ∈ places, place < length) :
    (places.map Int.ofNat).mapM (placeOf? length) = some places := by
  induction places with
  | nil => rfl
  | cons place rest ih =>
      obtain ⟨here, later⟩ := List.forall_mem_cons.1 valid
      have found : placeOf? length (Int.ofNat place) = some place := by
        have notNegative : ¬Int.ofNat place < 0 := by simp
        have within : 0 ≤ Int.ofNat place ∧ Int.ofNat place < length := by simpa using here
        simp only [placeOf?]
        rw [if_neg notNegative, if_pos within]
        rfl
      rw [List.map_cons, List.mapM_cons, found, ih later]
      rfl

theorem map_select {prepared : List Prepared} {places : List Nat}
    (valid : ∀ place ∈ places, place < prepared.length) :
    (select prepared places).map some = places.map ((transactions prepared)[·]?) := by
  induction places with
  | nil => rfl
  | cons place rest ih =>
      obtain ⟨here, later⟩ := List.forall_mem_cons.1 valid
      have found := List.getElem?_eq_getElem here
      rw [select] at ih ⊢
      rw [List.filterMap_cons, found, Option.map_some, List.map_cons, List.map_cons, ih later,
        transactions, List.getElem?_map, found, Option.map_some]

/-- Each place that is taken holds the transaction that takes it, and the other places hold what
they held. -/
theorem getElem?_replace {prepared : List Prepared} {places : List Nat}
    {answered : List Transaction} (distinct : places.Nodup) (place : Nat) :
    (replace prepared places answered)[place]? = (prepared[place]?).map fun entry =>
      { entry with
        transaction := ((places.zip answered).lookup place).getD entry.transaction } := by
  induction places generalizing prepared answered with
  | nil =>
      rw [replace, List.zip_nil_left, List.foldl_nil, List.lookup_nil]
      exact Option.map_id'.symm
  | cons first rest ih =>
      cases answered with
      | nil =>
          rw [replace, List.zip_nil_right, List.foldl_nil, List.lookup_nil]
          exact Option.map_id'.symm
      | cons answer others =>
          obtain ⟨unused, distinctRest⟩ := List.nodup_cons.1 distinct
          have later := @ih (prepared.modify first fun entry => { entry with transaction := answer })
            others distinctRest
          rw [replace] at later ⊢
          rw [List.zip_cons_cons, List.foldl_cons, later, List.getElem?_modify, List.lookup_cons]
          by_cases here : first = place
          · subst here
            have absent : (rest.zip others).lookup first = none := by
              rw [List.lookup_eq_none_iff]
              rintro ⟨other, transaction⟩ member
              rw [bne_iff_ne]
              rintro rfl
              exact unused (List.of_mem_zip member).1
            cases prepared[first]? <;> simp [absent]
          · have differs : (place == first) = false := beq_false_of_ne (Ne.symm here)
            cases prepared[place]? <;> simp [here, differs]

theorem transactions_replace {prepared : List Prepared} {places : Key → List Nat}
    {call : SigningCall ε} {answered : List Transaction}
    (distinct : (places call.signer.key).Nodup) (answers : call.answer = .ok answered) :
    transactions (replace prepared (places call.signer.key) answered) =
      SigningCall.leave places (transactions prepared) call := by
  apply List.ext_getElem?
  intro place
  rw [SigningCall.leave, answers, transactions, transactions, List.getElem?_map,
    getElem?_replace distinct, List.getElem?_mapIdx, List.getElem?_map]
  cases prepared[place]? <;> rfl

end Prepared

/-! ### One signer -/

/-- A state after a signer was called. -/
def World.afterCall (world : World ε) (call : SigningCall ε) : World ε :=
  { world.record call.event with environment := call.left }

/-- Asking a signer is one call, shown the transactions at its places. -/
theorem runFrom_signEntry (signer : Signer ε) {prepared : List Prepared} {places : List Nat}
    (valid : ∀ place ∈ places, place < prepared.length) (world : World ε) :
    let call : SigningCall ε := ⟨signer, Prepared.select prepared places, world.environment⟩
    (signEntry prepared ⟨signer, places.map Int.ofNat⟩).runFrom world =
      (match call.answer with
        | .error fault => .error fault
        | .ok answered =>
            if answered.length = call.shown.length then
              .ok (Prepared.replace prepared places answered)
            else .error (.signingIncomplete
              (.wrongCount signer.key answered.length call.shown.length)),
        world.afterCall call) := by
  intro call
  have asks : (signer.signAll (Prepared.select prepared places)).runFrom world =
      (call.answer, world.afterCall call) := by
    rfl
  simp only [signEntry, Prepared.mapM_placeOf? valid]
  rw [Client.runFrom_bind, asks]
  cases call.answer with
  | error fault => rfl
  | ok answered =>
      by_cases complete : answered.length = (Prepared.select prepared places).length
      · simp only [call, if_pos complete]
        rfl
      · simp only [call, if_neg complete]
        rfl

/-! ### A round -/

/-- Signers are asked one after the other, each for the transactions at the places of its key, until
one of them does not answer in full. -/
inductive SigningRound (places : Key → List Nat) :
    List (Signer ε) → List Prepared → ε → List (SigningCall ε) → Except Fault (List Prepared) →
      ε → Prop
  | finished {prepared : List Prepared} {environment : ε} :
      SigningRound places [] prepared environment [] (.ok prepared) environment
  | answered {signer : Signer ε} {rest : List (Signer ε)} {prepared : List Prepared}
      {call : SigningCall ε} {answered : List Transaction} {calls : List (SigningCall ε)}
      {outcome : Except Fault (List Prepared)} {final : ε} :
      call.signer = signer → call.shown = Prepared.select prepared (places signer.key) →
      call.answer = .ok answered → answered.length = call.shown.length →
      SigningRound places rest (Prepared.replace prepared (places signer.key) answered) call.left
        calls outcome final →
      SigningRound places (signer :: rest) prepared call.environment (call :: calls) outcome final
  | raised {signer : Signer ε} {rest : List (Signer ε)} {prepared : List Prepared}
      {call : SigningCall ε} {fault : Fault} :
      call.signer = signer → call.shown = Prepared.select prepared (places signer.key) →
      call.answer = .error fault →
      SigningRound places (signer :: rest) prepared call.environment [call] (.error fault) call.left
  | miscounted {signer : Signer ε} {rest : List (Signer ε)} {prepared : List Prepared}
      {call : SigningCall ε} {answered : List Transaction} :
      call.signer = signer → call.shown = Prepared.select prepared (places signer.key) →
      call.answer = .ok answered → answered.length ≠ call.shown.length →
      SigningRound places (signer :: rest) prepared call.environment [call]
        (.error (.signingIncomplete
          (.wrongCount signer.key answered.length call.shown.length))) call.left

/-- A state after some calls. -/
def World.afterCalls (world : World ε) (calls : List (SigningCall ε)) (environment : ε) :
    World ε :=
  { world with
    environment := environment
    trace := world.trace ++ calls.map fun call => ⟨world.now, call.event⟩ }

/-- Asking all signers of a list is a round of them. -/
theorem exists_signingRound (order : List (Signer ε)) {places : Key → List Nat}
    {prepared : List Prepared} (valid : ∀ key, ∀ place ∈ places key, place < prepared.length)
    (world : World ε) :
    ∃ calls outcome final,
      SigningRound places order prepared world.environment calls outcome final ∧
      ((order.map fun signer => (⟨signer, (places signer.key).map Int.ofNat⟩ :
        Registration ε)).foldlM signEntry prepared).runFrom world =
        (outcome, world.afterCalls calls final) := by
  induction order generalizing prepared world with
  | nil =>
      refine ⟨[], .ok prepared, world.environment, .finished, ?_⟩
      simp only [World.afterCalls, List.map_nil, List.append_nil]
      rfl
  | cons signer rest ih =>
      let call : SigningCall ε :=
        ⟨signer, Prepared.select prepared (places signer.key), world.environment⟩
      have asks := runFrom_signEntry signer (valid signer.key) world
      rw [List.map_cons, List.foldlM_cons, Client.runFrom_bind, asks]
      cases answers : call.answer with
      | error fault =>
          exact ⟨[call], .error fault, call.left, .raised rfl rfl answers, rfl⟩
      | ok answered =>
          by_cases complete : answered.length = call.shown.length
          · obtain ⟨calls, outcome, final, round, ran⟩ :=
              @ih (Prepared.replace prepared (places signer.key) answered)
                (by simpa only [Prepared.length_replace] using valid) (world.afterCall call)
            refine ⟨call :: calls, outcome, final, .answered rfl rfl answers complete round, ?_⟩
            simp only [call] at complete
            simp only [if_pos complete]
            rw [ran, World.afterCalls, World.afterCalls, List.map_cons, ← List.singleton_append,
              ← List.append_assoc]
            rfl
          · refine ⟨[call], _, call.left, .miscounted rfl rfl answers complete, ?_⟩
            simp only [call] at complete
            simp only [if_neg complete]
            rfl

namespace SigningRound

variable {places : Key → List Nat} {order : List (Signer ε)} {prepared : List Prepared}
  {environment final : ε} {calls : List (SigningCall ε)} {outcome : Except Fault (List Prepared)}

theorem signers_prefix (round : SigningRound places order prepared environment calls outcome final) :
    calls.map (·.signer) <+: order := by
  induction round with
  | finished => exact List.prefix_refl _
  | answered same _ _ _ _ ih =>
      rw [List.map_cons, same]
      exact List.prefix_cons_inj _ |>.2 ih
  | raised same => simp [same]
  | miscounted same => simp [same]

/-- When every signer answers in full, all of them are asked. -/
theorem signers_eq (round : SigningRound places order prepared environment calls outcome final)
    (complete : ∀ call ∈ calls, call.Completes) : calls.map (·.signer) = order := by
  induction round with
  | finished => rfl
  | answered same _ _ _ _ ih =>
      rw [List.map_cons, same, ih fun call member => complete call (List.mem_cons_of_mem _ member)]
  | raised _ _ answers =>
      obtain ⟨answered, known, _⟩ := complete _ List.mem_cons_self
      rw [answers] at known
      contradiction
  | miscounted _ _ answers differs =>
      obtain ⟨answered, known, same⟩ := complete _ List.mem_cons_self
      rw [answers, Except.ok.injEq] at known
      exact absurd (known ▸ same) differs

theorem completes_of_ok {signed : List Prepared}
    (round : SigningRound places order prepared environment calls (.ok signed) final) :
    ∀ call ∈ calls, call.Completes := by
  generalize known : Except.ok signed = outcome at round
  induction round with
  | finished => exact fun _ none => nomatch none
  | answered _ _ answers complete _ ih =>
      exact List.forall_mem_cons.2 ⟨⟨_, answers, complete⟩, ih known⟩
  | raised => contradiction
  | miscounted => contradiction

theorem transactions_of_ok {signed : List Prepared} (distinct : ∀ key, (places key).Nodup)
    (round : SigningRound places order prepared environment calls (.ok signed) final) :
    Prepared.transactions signed =
      calls.foldl (SigningCall.leave places) (Prepared.transactions prepared) := by
  generalize known : Except.ok signed = outcome at round
  induction round with
  | finished =>
      obtain rfl := Except.ok.inj known
      rfl
  | answered same _ answers _ _ ih =>
      rw [ih known, List.foldl_cons, ← same, Prepared.transactions_replace (distinct _) answers]
  | raised => contradiction
  | miscounted => contradiction

end SigningRound

/-- A call comes after some others: it is shown what they have left at the places of its key, in the
environment that they have left. -/
structure SigningCall.Follows (places : Key → List Nat) (start : List Transaction)
    (environment : ε) (earlier : List (SigningCall ε)) (call : SigningCall ε) : Prop where
  shown : call.shown.map some =
    (places call.signer.key).map ((earlier.foldl (leave places) start)[·]?)
  environment : call.environment = (earlier.getLast?.map left).getD environment

namespace SigningRound

variable {places : Key → List Nat} {order : List (Signer ε)} {prepared : List Prepared}
  {environment final : ε} {calls : List (SigningCall ε)} {outcome : Except Fault (List Prepared)}

theorem follows (distinct : ∀ key, (places key).Nodup)
    (valid : ∀ key, ∀ place ∈ places key, place < prepared.length)
    (round : SigningRound places order prepared environment calls outcome final)
    {earlier later : List (SigningCall ε)} {call : SigningCall ε}
    (split : calls = earlier ++ call :: later) :
    call.Follows places (Prepared.transactions prepared) environment earlier := by
  -- The call is the first one of its round, or it follows in the round after the first one.
  induction round generalizing earlier with
  | finished => simp at split
  | @answered signer _ prepared first answered _ _ _ same shown answers _ _ ih =>
      cases earlier with
      | nil =>
          obtain ⟨rfl, _⟩ := List.cons.inj split
          exact ⟨by rw [shown, same]; exact Prepared.map_select (valid signer.key), rfl⟩
      | cons other earlier =>
          obtain ⟨rfl, splitRest⟩ := List.cons.inj split
          have here := ih (by simpa only [Prepared.length_replace] using valid) splitRest
          rw [← same, Prepared.transactions_replace (distinct _) answers] at here
          refine ⟨here.shown, here.environment.trans ?_⟩
          cases earlier <;> simp [List.getLast?_cons]
  | raised same shown =>
      cases earlier with
      | nil =>
          obtain ⟨rfl, _⟩ := List.cons.inj split
          exact ⟨by rw [shown, same]; exact Prepared.map_select (valid _), rfl⟩
      | cons other earlier => simp at split
  | miscounted same shown =>
      cases earlier with
      | nil =>
          obtain ⟨rfl, _⟩ := List.cons.inj split
          exact ⟨by rw [shown, same]; exact Prepared.map_select (valid _), rfl⟩
      | cons other earlier => simp at split

/-- A call that is not answered in full is the last one, and its fault is that of the round. -/
theorem stops (round : SigningRound places order prepared environment calls outcome final)
    {earlier later : List (SigningCall ε)} {call : SigningCall ε}
    (split : calls = earlier ++ call :: later) :
    match call.answer with
    | .error fault => later = [] ∧ outcome = .error fault
    | .ok given => given.length ≠ call.shown.length → later = [] ∧
        outcome = .error (.signingIncomplete
          (.wrongCount call.signer.key given.length call.shown.length)) := by
  induction round generalizing earlier with
  | finished => simp at split
  | answered _ _ answers complete _ ih =>
      cases earlier with
      | nil =>
          obtain ⟨rfl, _⟩ := List.cons.inj split
          rw [answers]
          exact fun differs => absurd complete differs
      | cons other earlier => exact ih (List.cons.inj split).2
  | raised _ _ answers =>
      cases earlier with
      | nil =>
          obtain ⟨rfl, rfl⟩ := List.cons.inj split
          rw [answers]
          exact ⟨rfl, rfl⟩
      | cons other earlier => simp at split
  | miscounted same _ answers _ =>
      cases earlier with
      | nil =>
          obtain ⟨rfl, rfl⟩ := List.cons.inj split
          rw [answers, same]
          exact fun _ => ⟨rfl, rfl⟩
      | cons other earlier => simp at split

end SigningRound

/-! ### Building and signing -/

/-- Signers in the order in which they are asked: the remote ones first. -/
def Signer.remoteFirst (signers : List (Signer ε)) : List (Signer ε) :=
  signers.filter (·.remote) ++ signers.filter (!·.remote)

theorem Registration.signingOrder_ofPlans (payer : Signer ε) (plans : List (Plan ε)) :
    signingOrder (ofPlans (.signer payer) plans) =
      (Signer.remoteFirst (Plan.roster payer plans)).map fun signer =>
        ⟨signer, (Plan.placesOf payer.key plans signer.key).map Int.ofNat⟩ := by
  rw [signingOrder, ofPlans_eq, Signer.remoteFirst, List.map_append, List.filter_map,
    List.filter_map]
  rfl

theorem Signer.remoteFirst_perm (signers : List (Signer ε)) :
    (remoteFirst signers).Perm signers := by
  rw [remoteFirst]
  exact List.filter_append_perm (fun signer => signer.remote) signers

/-- An event is a question for a blockhash. -/
def Event.AsksBlockhash (event : Event) : Prop := ∃ commitment, event = .blockhashAsked commitment

theorem buildMessages_moves (network : Network ε) (payer : Payer ε) (plans : List (Plan ε)) :
    (buildMessages network payer plans).Moves (World.ExtendsBy Event.AsksBlockhash) := by
  rw [buildMessages_eq]
  refine .bind (.gather fun operation member => ?_) fun _ => .pure _
  obtain ⟨plan, _, rfl⟩ := List.mem_map.1 member
  rw [Plan.build_eq]
  refine .bind ?_ fun found => ?_
  · cases plan.source with
    | known blockhash commitment => exact .pure _
    | latest commitment =>
        refine .bind (.connectionCommitment network) fun own => ?_
        exact .bind (.latestBlockhash network ⟨_, rfl⟩) fun _ => .pure _
  · cases (plan.draft payer.account).compile plan.tables found.1.hash with
    | ok message => exact .pure _
    | error cause => exact .throw _

theorem of_runFrom_buildMessages {network : Network ε} {payer : Payer ε} {plans : List (Plan ε)}
    {built : List BuiltMessage} {entries : List (Registration ε)} {world between : World ε}
    (builds : (buildMessages network payer plans).runFrom world = (.ok (built, entries), between)) :
    entries = Registration.ofPlans payer plans ∧ built.length = plans.length := by
  have compiled := of_buildMessages_ok ⟨world, congrArg Prod.fst builds⟩
  rw [buildMessages_eq] at builds
  obtain ⟨_, _, _, done⟩ := Client.runFrom_bind_eq_ok.1 builds
  obtain ⟨same, _⟩ := Client.of_runFrom_pure done
  exact ⟨(Prod.mk.inj same).2.symm, compiled.length_eq.symm⟩

theorem buildAndSign_eq (scheme : SignatureScheme) (network : Network ε) (payer : Signer ε)
    (plans : List (Plan ε)) :
    buildAndSign scheme network payer plans =
      buildMessages network (.signer payer) plans >>= fun made =>
        signPrepared scheme (made.1.map (·.prepare)) made.2 := by
  rfl

theorem signPrepared_eq (scheme : SignatureScheme) (prepared : List Prepared)
    (entries : List (Registration ε)) :
    signPrepared scheme prepared entries =
      (Registration.signingOrder entries).foldlM signEntry prepared >>= fun signed =>
        Client.ofExcept (checkAllSigned scheme 0 signed) >>= fun _ => pure signed := by
  rfl

theorem Plan.placesOf_nodup (payer : Key) (plans : List (Plan ε)) (key : Key) :
    (placesOf payer plans key).Nodup :=
  (Registration.placesOf_ascending payer plans key).imp Nat.ne_of_lt

/-- Whoever signs finds a transaction at every place of the key. -/
theorem Plan.placesOf_valid (payer : Key) {plans : List (Plan ε)} {built : List BuiltMessage}
    (count : built.length = plans.length) (key : Key) :
    ∀ place ∈ placesOf payer plans key, place < (built.map (·.prepare)).length := by
  intro place member
  obtain ⟨plan, found, _⟩ := Registration.mem_placesOf.1 member
  rw [List.length_map, count]
  exact (List.getElem?_eq_some_iff.1 found).1

/-- Once the messages are built, signing is a round of the roster, the remote signers first, and
then the check of every slot. -/
theorem exists_signingRound_of_buildMessages (scheme : SignatureScheme) {network : Network ε}
    {payer : Signer ε} {plans : List (Plan ε)} {built : List BuiltMessage}
    {entries : List (Registration ε)} {world between : World ε}
    (builds : (buildMessages network (.signer payer) plans).runFrom world =
      (.ok (built, entries), between)) :
    ∃ calls outcome final,
      SigningRound (Plan.placesOf payer.key plans) (Signer.remoteFirst (Plan.roster payer plans))
        (built.map (·.prepare)) between.environment calls outcome final ∧
      (buildAndSign scheme network payer plans).runFrom world =
        (outcome.bind fun signed => (checkAllSigned scheme 0 signed).map fun _ => signed,
          between.afterCalls calls final) := by
  obtain ⟨rfl, count⟩ := of_runFrom_buildMessages builds
  have valid := Plan.placesOf_valid payer.key count
  obtain ⟨calls, outcome, final, round, ran⟩ := exists_signingRound
    (Signer.remoteFirst (Plan.roster payer plans)) valid between
  refine ⟨calls, outcome, final, round, ?_⟩
  rw [buildAndSign_eq, Client.runFrom_bind, builds]
  dsimp only
  rw [signPrepared_eq, Registration.signingOrder_ofPlans, Client.runFrom_bind, ran]
  cases outcome with
  | error fault => rfl
  | ok signed =>
      dsimp only
      rw [Client.runFrom_bind, Client.runFrom_ofExcept]
      cases checked : checkAllSigned scheme 0 signed with
      | error fault => simp only [Except.bind, checked, Except.map]
      | ok _ =>
          simp only [Except.bind, checked, Except.map]
          rfl

/-- Whoever signs is asked at most once, through the first signer of the key, remote signers before
local ones.  Each call is shown the transactions of its key as the calls before it have left them,
and a call that is not answered in full ends everything. -/
theorem buildAndSign_asks_in_order (scheme : SignatureScheme) {network : Network ε}
    {payer : Signer ε} {plans : List (Plan ε)} {built : List BuiltMessage}
    {entries : List (Registration ε)} {world between : World ε}
    (builds : (buildMessages network (.signer payer) plans).runFrom world =
      (.ok (built, entries), between)) :
    let order := Signer.remoteFirst (Plan.roster payer plans)
    let places := Plan.placesOf payer.key plans
    let unsigned := built.map fun entry => Transaction.unsigned entry.message
    let run := (buildAndSign scheme network payer plans).runFrom world
    (order.map (·.key)).Nodup ∧
    (∀ key, key ∈ order.map (·.key) ↔ key = payer.key ∨ ∃ plan ∈ plans, plan.lists key = true) ∧
    ∃ (asked : List TraceEntry) (calls : List (SigningCall ε)),
      between.trace = world.trace ++ asked ∧
      (∀ entry ∈ asked, entry.event.AsksBlockhash) ∧
      run.2.trace = between.trace ++ calls.map (fun call => ⟨between.now, call.event⟩) ∧
      calls.map (·.signer) <+: order ∧
      (∀ earlier call later, calls = earlier ++ call :: later →
        call.Follows places unsigned between.environment earlier ∧
        match call.answer with
        | .error fault => later = [] ∧ run.1 = .error fault
        | .ok given => given.length ≠ call.shown.length → later = [] ∧
            run.1 = .error (.signingIncomplete
              (.wrongCount call.signer.key given.length call.shown.length))) ∧
      ((∀ call ∈ calls, call.Completes) → calls.map (·.signer) = order) ∧
      (∀ signed, run.1 = .ok signed → calls.map (·.signer) = order ∧
        signed.map (·.transaction) = calls.foldl (SigningCall.leave places) unsigned) := by
  intro order places unsigned run
  obtain ⟨calls, outcome, final, round, ran⟩ :=
    exists_signingRound_of_buildMessages scheme builds
  obtain ⟨_, count⟩ := of_runFrom_buildMessages builds
  obtain ⟨environment, asked, grown, kinds⟩ := by
    have moved := buildMessages_moves network (.signer payer) plans world
    rw [builds] at moved
    exact moved
  have distinct := Plan.placesOf_nodup payer.key plans
  have valid := Plan.placesOf_valid payer.key count
  have start : Prepared.transactions (built.map (·.prepare)) = unsigned :=
    List.map_map
  have sameKeys := (Signer.remoteFirst_perm (Plan.roster payer plans)).map (·.key)
  have outcomeOf : run.1 = outcome.bind fun signed =>
      (checkAllSigned scheme 0 signed).map fun _ => signed := congrArg Prod.fst ran
  refine ⟨sameKeys.nodup_iff.2 (Signer.nodup_map_key_firsts _), ?members, asked, calls,
    congrArg World.trace grown, fun entry member => (kinds entry member).2,
    congrArg (fun ran => ran.2.trace) ran, round.signers_prefix, ?each, round.signers_eq, ?returns⟩
  case members =>
    intro key
    rw [sameKeys.mem_iff]
    exact Plan.mem_map_key_roster
  case each =>
    intro earlier call later split
    have follows := round.follows distinct valid split
    rw [start] at follows
    refine ⟨follows, ?_⟩
    have stops := round.stops split
    cases answer : call.answer with
    | error fault =>
        rw [answer] at stops
        obtain ⟨last, rfl⟩ := stops
        exact ⟨last, outcomeOf⟩
    | ok given =>
        rw [answer] at stops
        intro differs
        obtain ⟨last, rfl⟩ := stops differs
        exact ⟨last, outcomeOf⟩
  case returns =>
    intro signed returned
    rw [outcomeOf] at returned
    cases outcome with
    | error fault => contradiction
    | ok last =>
        obtain rfl : last = signed := by
          cases checked : checkAllSigned scheme 0 last with
          | error fault =>
              simp only [Except.bind, checked, Except.map] at returned
              contradiction
          | ok _ =>
              simp only [Except.bind, checked, Except.map, Except.ok.injEq] at returned
              exact returned
        refine ⟨round.signers_eq round.completes_of_ok, ?_⟩
        rw [← start]
        exact round.transactions_of_ok distinct

/-- A call that some accounts have to sign. -/
def signedCall (accounts : List Nat) : Instruction :=
  ⟨Key.ofNat 9, accounts.map fun account => ⟨Key.ofNat account, true, false⟩, [1]⟩

/-- A signer in this process, with a small number as its key. -/
def Signer.near (scheme : SignatureScheme) (name : String) (number : Nat) : Signer Script :=
  .ofKeypair scheme name (.ofSeed scheme (Seed.ofNat number))

/-- A signer that has to be reached, with a small number as its key. -/
def Signer.far (scheme : SignatureScheme) (name : String) (number : Nat) : Signer Script :=
  let keypair := Keypair.ofSeed scheme (Seed.ofNat number)
  .remoteOf scheme name keypair.key keypair false

/-- Two transactions of three signers.  One of them is listed twice, under two names, and the payer
is listed as well. -/
def sharedPlans (scheme : SignatureScheme) : List (Plan Script) :=
  [⟨[⟨signedCall [2], [.near scheme "clerk" 2, .far scheme "double" 1]⟩], .latest none, []⟩,
    ⟨[⟨signedCall [3, 2], [.far scheme "phone" 3, .near scheme "double" 3]⟩,
      ⟨signedCall [2], [.near scheme "clerk" 2]⟩], .latest none, []⟩]

theorem buildAndSign_asks_in_order_sharedPlans :
    let payer := Signer.near .lenient "payer" 1
    ∃ built entries between, (buildMessages Script.network (.signer payer)
        (sharedPlans .lenient)).runFrom (World.start .plain) = (.ok (built, entries), between) ∧
      ∃ calls : List (SigningCall Script),
        ((buildAndSign .lenient Script.network payer (sharedPlans .lenient)).runFrom
          (World.start .plain)).2.trace =
            between.trace ++ calls.map (fun call => ⟨between.now, call.event⟩) ∧
        calls.map (·.signer.name) = ["phone", "payer", "clerk"] ∧
        calls.map (·.shown.length) = [1, 2, 2] := by
  intro payer
  have builds : ((buildMessages Script.network (.signer payer) (sharedPlans .lenient)).runFrom
      (World.start .plain)).1.isOk = true := by
    decide +kernel
  have returns : ((buildAndSign .lenient Script.network payer (sharedPlans .lenient)).runFrom
      (World.start .plain)).1.isOk = true := by
    decide +kernel
  obtain ⟨⟨built, entries⟩, made⟩ := isOk_iff.1 builds
  obtain ⟨signed, returned⟩ := isOk_iff.1 returns
  obtain ⟨_, _, _, calls, _, _, grown, _, each, _, all⟩ :=
    buildAndSign_asks_in_order .lenient (Prod.ext made rfl)
  obtain ⟨inOrder, _⟩ := all signed returned
  refine ⟨built, entries, _, Prod.ext made rfl, calls, grown, ?_, ?_⟩
  · have names := congrArg (List.map (·.name)) inOrder
    rw [List.map_map] at names
    exact names.trans (by decide +kernel)
  · have lengths : calls.map (·.shown.length) = (calls.map (·.signer)).map fun signer =>
        (Plan.placesOf payer.key (sharedPlans .lenient) signer.key).length := by
      rw [List.map_map]
      refine List.map_congr_left fun call member => ?_
      obtain ⟨earlier, later, split⟩ := List.append_of_mem member
      have same := congrArg List.length (each earlier call later split).1.shown
      rw [List.length_map, List.length_map] at same
      exact same
    rw [lengths, inOrder]
    decide +kernel

end SolanaTransactions
