/-
Module: SolanaTransactions.Proofs.Signing.Completeness
Purpose: When everybody signs with a keypair, signing succeeds exactly when those who are listed are
  those who have to sign.
Main exports:
  Plan.authorizes, Signer.Backed, Prepared.Progress, Prepared.Progress.of_round,
  buildAndSign_returns_iff_authorized
-/
import SolanaTransactions.Proofs.Signing.Required
import SolanaTransactions.Proofs.Signing.Round
import SolanaTransactions.Proofs.Submission.Guard

namespace SolanaTransactions

/-!
Who has to sign follows from the accounts of the instructions, and who does sign
from the signers that are listed with them.  During the round every transaction
is the one of its message, signed by the keys that were asked so far and are
registered for it; this is the invariant.  A key that is registered without need
stops the round, and a key that is needed without being registered leaves its
slot blank, which the check at the end finds.
-/

variable {ε : Type} {scheme : SignatureScheme}

/-- Whether a key signs the transaction of a plan: it is that of the payer, or a signer of an
instruction has it. -/
def Plan.authorizes (payer : Key) (plan : Plan ε) (key : Key) : Bool :=
  key == payer || plan.lists key

namespace Signer

/-- A signer does with all that it is shown what its keypair does, in every environment. -/
def Backed (scheme : SignatureScheme) (signer : Signer ε) : Prop :=
  ∃ seed, signer.key = scheme.publicKey seed ∧ ∀ shown environment,
    (signer.respond shown environment).1 = signEach scheme (Keypair.ofSeed scheme seed) shown

theorem backed_ofKeypair (scheme : SignatureScheme) (name : String) (seed : Seed) :
    (ofKeypair scheme name (Keypair.ofSeed scheme seed) : Signer ε).Backed scheme :=
  ⟨seed, rfl, fun _ _ => rfl⟩

theorem backed_near (scheme : SignatureScheme) (name : String) (number : Nat) :
    (near scheme name number).Backed scheme :=
  backed_ofKeypair scheme name (Seed.ofNat number)

theorem backed_far (scheme : SignatureScheme) (name : String) (number : Nat) :
    (far scheme name number).Backed scheme :=
  ⟨Seed.ofNat number, rfl, fun _ _ => rfl⟩

end Signer

/-- Every slot of a message is that of one key. -/
structure Message.OneSlotEach (message : Message) : Prop where
  nodup : message.signerKeys.Nodup
  length : message.signerKeys.length = message.requiredSignatures

namespace Prepared

variable {built : List BuiltMessage} {prepared : List Prepared} {signed : Nat → Key → Bool}

/-- An entry is that of a built message which some keys have signed. -/
structure SignedFor (scheme : SignatureScheme) (made : BuiltMessage) (signed : Key → Bool)
    (entry : Prepared) : Prop where
  transaction : entry.transaction.SignedBy scheme made.message signed
  blockhash : entry.blockhash = made.blockhash

/-- At every place there stands the entry of the message built for it, signed by the keys of the
place. -/
structure Progress (scheme : SignatureScheme) (built : List BuiltMessage)
    (signed : Nat → Key → Bool) (prepared : List Prepared) : Prop where
  length : prepared.length = built.length
  each : ∀ (place : Nat) (made : BuiltMessage) (entry : Prepared), built[place]? = some made →
    prepared[place]? = some entry → entry.SignedFor scheme made (signed place)

theorem Progress.start (scheme : SignatureScheme)
    (slots : ∀ made ∈ built, made.message.OneSlotEach) :
    Progress scheme built (fun _ _ => false) (built.map (·.prepare)) := by
  refine ⟨List.length_map _, fun place made entry inBuilt inPrepared => ?_⟩
  rw [List.getElem?_map, inBuilt] at inPrepared
  obtain rfl := Option.some.inj inPrepared
  exact ⟨Transaction.signedBy_unsigned scheme (slots made (List.mem_of_getElem? inBuilt)).length,
    rfl⟩

theorem Progress.congr {other : Nat → Key → Bool}
    (same : ∀ (place : Nat) (made : BuiltMessage), built[place]? = some made →
      ∀ key ∈ made.message.signerKeys, signed place key = other place key)
    (progress : Progress scheme built signed prepared) : Progress scheme built other prepared :=
  ⟨progress.length, fun place made entry inBuilt inPrepared =>
    have before := progress.each place made entry inBuilt inPrepared
    ⟨before.transaction.congr (same place made inBuilt), before.blockhash⟩⟩

/-! ### One signer -/

theorem mem_select_iff {places : List Nat} {shown : Transaction} :
    shown ∈ select prepared places ↔
      ∃ place ∈ places, ∃ entry, prepared[place]? = some entry ∧ entry.transaction = shown := by
  rw [select, List.mem_filterMap]
  simp only [Option.map_eq_some_iff]

theorem forall₂_select_iff {Related : Transaction → Transaction → Prop} {places : List Nat}
    {answered : List Transaction} (valid : ∀ place ∈ places, place < prepared.length) :
    List.Forall₂ Related (select prepared places) answered ↔
      List.Forall₂ (fun place answer => ∃ entry, prepared[place]? = some entry ∧
        Related entry.transaction answer) places answered := by
  induction places generalizing answered with
  | nil => simp [select]
  | cons place places ih =>
      obtain ⟨here, later⟩ := List.forall_mem_cons.1 valid
      have found := List.getElem?_eq_getElem here
      have others := fun rest => @ih rest later
      rw [select] at others ⊢
      simp only [List.filterMap_cons, found, Option.map_some, List.forall₂_cons_left_iff, others,
        Option.some.injEq, exists_eq_left']

/-- Where a place is taken, the one that takes it is found by the place. -/
theorem lookup_zip_of_mem {Related : Nat → Transaction → Prop} {places : List Nat}
    {answered : List Transaction} (related : List.Forall₂ Related places answered) {place : Nat}
    (member : place ∈ places) :
    ∃ answer, (places.zip answered).lookup place = some answer ∧ Related place answer := by
  induction related with
  | nil => contradiction
  | @cons first answer places answered here _ ih =>
      rw [List.zip_cons_cons, List.lookup_cons]
      by_cases same : place = first
      · subst same
        exact ⟨answer, by simp, here⟩
      · rw [beq_false_of_ne same]
        exact ih ((List.mem_cons.1 member).resolve_left same)

theorem lookup_zip_of_notMem {places : List Nat} {answered : List Transaction} {place : Nat}
    (absent : place ∉ places) : (places.zip answered).lookup place = none := by
  rw [List.lookup_eq_none_iff]
  rintro ⟨other, answer⟩ member
  rw [bne_iff_ne]
  rintro rfl
  exact absent (List.of_mem_zip member).1

section Call

variable {places : List Nat} {seed : Seed}

/-- A keypair that is asked where its key signs answers in full, and its key has signed there. -/
theorem Progress.exists_signEach (slots : ∀ made ∈ built, made.message.OneSlotEach)
    (distinct : places.Nodup) (valid : ∀ place ∈ places, place < prepared.length)
    (signs : ∀ place ∈ places, ∀ made, built[place]? = some made →
      scheme.publicKey seed ∈ made.message.signerKeys)
    (progress : Progress scheme built signed prepared) :
    ∃ answered,
      Signer.signEach scheme (Keypair.ofSeed scheme seed) (select prepared places) = .ok answered ∧
      answered.length = (select prepared places).length ∧
      Progress scheme built
        (fun place key => signed place key || (places.contains place && key == scheme.publicKey seed))
        (replace prepared places answered) := by
  have messageAt {place : Nat} {entry : Prepared} (found : prepared[place]? = some entry) :
      ∃ made, built[place]? = some made :=
    ⟨_, List.getElem?_eq_getElem (progress.length ▸ (List.getElem?_eq_some_iff.1 found).1)⟩
  have signsAt {place : Nat} {made : BuiltMessage} {entry : Prepared} (member : place ∈ places)
      (inBuilt : built[place]? = some made) (found : prepared[place]? = some entry) :=
    (progress.each place made entry inBuilt found).transaction.exists_sign
      (slots made (List.mem_of_getElem? inBuilt)).nodup (signs place member made inBuilt)
  obtain ⟨answered, answers⟩ : ∃ answered,
      (select prepared places).mapM (Transaction.sign scheme (Keypair.ofSeed scheme seed)) =
        .ok answered := by
    refine exists_mapM_eq_ok fun shown member => ?_
    obtain ⟨place, inPlaces, entry, found, rfl⟩ := mem_select_iff.1 member
    obtain ⟨made, inBuilt⟩ := messageAt found
    obtain ⟨after, done, _⟩ := signsAt inPlaces inBuilt found
    exact ⟨after, done⟩
  have each := mapM_eq_ok_iff.1 answers
  refine ⟨answered, answers, each.length_eq.symm, (length_replace _ _ _).trans progress.length, ?_⟩
  intro place made entry inBuilt replaced
  rw [getElem?_replace distinct] at replaced
  obtain ⟨old, found, rfl⟩ := Option.map_eq_some_iff.1 replaced
  have before := progress.each place made old inBuilt found
  refine ⟨?_, before.blockhash⟩
  by_cases member : place ∈ places
  · obtain ⟨answer, looked, _, sameFound, done⟩ :=
      lookup_zip_of_mem ((forall₂_select_iff valid).1 each) member
    obtain rfl := Option.some.inj (found.symm.trans sameFound)
    obtain ⟨after, signedAfter, signedBy⟩ := signsAt member inBuilt found
    obtain rfl := Except.ok.inj (done.symm.trans signedAfter)
    rw [looked, Option.getD_some]
    refine signedBy.congr fun key _ => ?_
    rw [List.contains_iff_mem.2 member, Bool.true_and]
  · rw [lookup_zip_of_notMem member, Option.getD_none]
    refine before.transaction.congr fun key _ => ?_
    rw [Bool.eq_false_iff.2 (mt List.contains_iff_mem.1 member), Bool.false_and, Bool.or_false]

/-- A keypair that is asked where its key does not sign refuses. -/
theorem Progress.signEach_eq_error {place : Nat} {made : BuiltMessage}
    (slots : ∀ made ∈ built, made.message.OneSlotEach)
    (valid : ∀ place ∈ places, place < prepared.length) (member : place ∈ places)
    (inBuilt : built[place]? = some made)
    (stranger : scheme.publicKey seed ∉ made.message.signerKeys)
    (progress : Progress scheme built signed prepared) :
    Signer.signEach scheme (Keypair.ofSeed scheme seed) (select prepared places) =
      .error (.notASigner (scheme.publicKey seed)) := by
  have refuses {place : Nat} {made : BuiltMessage} {entry : Prepared}
      (inBuilt : built[place]? = some made) (found : prepared[place]? = some entry)
      (stranger : scheme.publicKey seed ∉ made.message.signerKeys) :
      entry.transaction.sign scheme (Keypair.ofSeed scheme seed) =
        .error (.notASigner (scheme.publicKey seed)) :=
    (progress.each place made entry inBuilt found).transaction.sign_eq_error stranger
  refine mapM_eq_error (fun shown inSelected => ?_) ?_
  · obtain ⟨place, inPlaces, entry, found, rfl⟩ := mem_select_iff.1 inSelected
    have within : place < built.length :=
      progress.length ▸ (List.getElem?_eq_some_iff.1 found).1
    have inBuilt := List.getElem?_eq_getElem within
    by_cases signs : scheme.publicKey seed ∈ built[place].message.signerKeys
    · obtain ⟨after, done, _⟩ :=
        (progress.each place _ entry inBuilt found).transaction.exists_sign
          (slots _ (List.mem_of_getElem? inBuilt)).nodup signs
      exact Or.inr ⟨after, done⟩
    · exact Or.inl (refuses inBuilt found signs)
  · have found := List.getElem?_eq_getElem (valid place member)
    exact ⟨_, mem_select_iff.2 ⟨place, member, _, found, rfl⟩, refuses inBuilt found stranger⟩

end Call

/-! ### The round -/

/-- The key of a signer has no business with some transaction that it is registered for. -/
def Strays (built : List BuiltMessage) (places : Key → List Nat) (signer : Signer ε) : Prop :=
  ∃ place ∈ places signer.key, ∃ made, built[place]? = some made ∧
    signer.key ∉ made.message.signerKeys

section Round

variable {places : Key → List Nat}

theorem signs_of_not_strays {signer : Signer ε} (needed : ¬Strays built places signer) :
    ∀ place ∈ places signer.key, ∀ made, built[place]? = some made →
      signer.key ∈ made.message.signerKeys := by
  intro place member made inBuilt
  by_contra stranger
  exact needed ⟨place, member, made, inBuilt, stranger⟩

/-- A signer with a keypair answers in full unless it strays, and refuses if it does. -/
theorem Progress.of_call {call : SigningCall ε}
    (slots : ∀ made ∈ built, made.message.OneSlotEach)
    (distinct : (places call.signer.key).Nodup)
    (valid : ∀ place ∈ places call.signer.key, place < prepared.length)
    (backed : call.signer.Backed scheme)
    (shown : call.shown = select prepared (places call.signer.key))
    (progress : Progress scheme built signed prepared) :
    (¬Strays built places call.signer ∧ ∃ answered, call.answer = .ok answered ∧
      answered.length = call.shown.length ∧
      Progress scheme built
        (fun place key => signed place key ||
          ((places call.signer.key).contains place && key == call.signer.key))
        (replace prepared (places call.signer.key) answered)) ∨
      (Strays built places call.signer ∧ call.answer = .error (.notASigner call.signer.key)) := by
  obtain ⟨seed, key, responds⟩ := backed
  have answer := responds call.shown call.environment
  rw [← SigningCall.answer] at answer
  by_cases strays : Strays built places call.signer
  · right
    refine ⟨strays, ?_⟩
    obtain ⟨place, member, made, inBuilt, stranger⟩ := strays
    rw [key] at stranger
    rw [answer, shown, key]
    exact progress.signEach_eq_error slots (key ▸ valid) (key ▸ member) inBuilt stranger
  · left
    have signs := signs_of_not_strays strays
    rw [key] at signs
    obtain ⟨answered, answers, complete, after⟩ :=
      progress.exists_signEach slots (key ▸ distinct) (key ▸ valid) signs
    rw [answer, shown, key]
    exact ⟨strays, answered, answers, complete, after⟩

/-- A round of signers with keypairs comes to an end unless one of them strays; then everybody has
signed wherever the key is registered.  The first one that strays stops the round. -/
theorem Progress.of_round {order : List (Signer ε)} {environment final : ε}
    {calls : List (SigningCall ε)} {outcome : Except Fault (List Prepared)}
    (slots : ∀ made ∈ built, made.message.OneSlotEach)
    (distinct : ∀ key, (places key).Nodup)
    (valid : ∀ key, ∀ place ∈ places key, place < prepared.length)
    (backed : ∀ signer ∈ order, signer.Backed scheme)
    (progress : Progress scheme built signed prepared)
    (round : SigningRound places order prepared environment calls outcome final) :
    ((∀ signer ∈ order, ¬Strays built places signer) ∧ ∃ last, outcome = .ok last ∧
      Progress scheme built
        (fun place key => signed place key ||
          order.any fun signer => (places signer.key).contains place && key == signer.key)
        last) ∨
      ∃ signer ∈ order, Strays built places signer ∧ outcome = .error (.notASigner signer.key) := by
  induction round generalizing signed with
  | finished =>
      left
      refine ⟨fun _ none => (nomatch none), _, rfl, progress.congr fun place _ _ key _ => ?_⟩
      rw [List.any_nil, Bool.or_false]
  | answered same shown answers complete _ ih =>
      subst same
      obtain ⟨here, later⟩ := List.forall_mem_cons.1 backed
      rcases progress.of_call slots (distinct _) (valid _) here shown with
        ⟨needed, given, answersGiven, _, after⟩ | ⟨_, refused⟩
      · obtain rfl := Except.ok.inj (answers.symm.trans answersGiven)
        rcases ih (by simpa only [length_replace] using valid) later after with
          ⟨others, last, ended, signedAll⟩ | ⟨signer, member, strays, ended⟩
        · left
          refine ⟨List.forall_mem_cons.2 ⟨needed, others⟩, last, ended,
            signedAll.congr fun place _ _ key _ => ?_⟩
          rw [List.any_cons, Bool.or_assoc]
        · exact Or.inr ⟨signer, List.mem_cons_of_mem _ member, strays, ended⟩
      · rw [answers] at refused
        contradiction
  | raised same shown answers =>
      subst same
      obtain ⟨here, _⟩ := List.forall_mem_cons.1 backed
      rcases progress.of_call slots (distinct _) (valid _) here shown with
        ⟨_, given, answersGiven, _⟩ | ⟨strays, refused⟩
      · rw [answers] at answersGiven
        contradiction
      · obtain rfl := Except.error.inj (answers.symm.trans refused)
        exact Or.inr ⟨_, List.mem_cons_self, strays, rfl⟩
  | miscounted same shown answers differs =>
      subst same
      obtain ⟨here, _⟩ := List.forall_mem_cons.1 backed
      rcases progress.of_call slots (distinct _) (valid _) here shown with
        ⟨_, given, answersGiven, complete, _⟩ | ⟨_, refused⟩
      · obtain rfl := Except.ok.inj (answers.symm.trans answersGiven)
        exact absurd complete differs
      · rw [answers] at refused
        contradiction

end Round

end Prepared

/-! ### Building and signing -/

section Building

variable {network : Network ε} {payer : Signer ε} {plans : List (Plan ε)}
  {built : List BuiltMessage} {entries : List (Registration ε)} {world between : World ε}

/-- What every plan was compiled to. -/
def Compiles (payer : Key) (plan : Plan ε) (made : BuiltMessage) : Prop :=
  (plan.draft payer).compile plan.tables made.blockhash.hash = .ok made.message

theorem Compiles.oneSlotEach {payer : Key} {plan : Plan ε} {made : BuiltMessage}
    (compiles : Compiles payer plan made) : made.message.OneSlotEach :=
  ⟨Draft.nodup_signerKeys_of_compile compiles, Draft.length_signerKeys_of_compile compiles⟩

theorem oneSlotEach_of_compiles {payer : Key}
    (compiles : List.Forall₂ (Compiles payer) plans built) :
    ∀ made ∈ built, made.message.OneSlotEach := by
  intro made member
  obtain ⟨place, inBuilt⟩ := List.mem_iff_getElem?.1 member
  have within : place < plans.length :=
    compiles.length_eq ▸ (List.getElem?_eq_some_iff.1 inBuilt).1
  exact (rel_of_getElem? compiles (List.getElem?_eq_getElem within) inBuilt).oneSlotEach

theorem mem_placesOf_iff_authorizes {payer key : Key} {place : Nat} :
    place ∈ Plan.placesOf payer plans key ↔
      ∃ plan, plans[place]? = some plan ∧ plan.authorizes payer key = true := by
  rw [Registration.mem_placesOf]
  simp only [Plan.authorizes, Bool.or_eq_true, beq_iff_eq]

/-- A signer strays when a plan authorizes its key without need. -/
theorem Prepared.strays_iff {payer : Key} (compiles : List.Forall₂ (Compiles payer) plans built)
    {signer : Signer ε} :
    Strays built (Plan.placesOf payer plans) signer ↔
      ∃ plan ∈ plans, plan.authorizes payer signer.key = true ∧
        (plan.draft payer).signs signer.key = false := by
  constructor
  · rintro ⟨place, member, made, inBuilt, stranger⟩
    obtain ⟨plan, inPlans, authorizes⟩ := mem_placesOf_iff_authorizes.1 member
    have compiled := rel_of_getElem? compiles inPlans inBuilt
    refine ⟨plan, List.mem_of_getElem? inPlans, authorizes, ?_⟩
    exact Bool.eq_false_iff.2 (mt (Draft.mem_signerKeys_of_compile compiled).2 stranger)
  · rintro ⟨plan, member, authorizes, needless⟩
    obtain ⟨place, inPlans⟩ := List.mem_iff_getElem?.1 member
    have within : place < built.length :=
      compiles.length_eq ▸ (List.getElem?_eq_some_iff.1 inPlans).1
    have inBuilt := List.getElem?_eq_getElem within
    have compiled := rel_of_getElem? compiles inPlans inBuilt
    refine ⟨place, mem_placesOf_iff_authorizes.2 ⟨plan, inPlans, authorizes⟩, _, inBuilt, ?_⟩
    rw [Draft.mem_signerKeys_of_compile compiled]
    exact Bool.eq_false_iff.1 needless

/-- Where all signers have keypairs, signing stops at a key that is authorized without need, or it
leaves every transaction signed by the keys that its plan authorizes, for the last check. -/
theorem signs_or_refuses (payerBacked : payer.Backed scheme)
    (backed : ∀ plan ∈ plans, ∀ signer ∈ plan.listed, signer.Backed scheme)
    (builds : (buildMessages network (.signer payer) plans).runFrom world =
      (.ok (built, entries), between)) :
    ((∀ plan ∈ plans, ∀ key, plan.authorizes payer.key key = true →
        (plan.draft payer.key).signs key = true) ∧
      ∃ last,
        ((buildAndSign scheme network payer plans).runFrom world).1 =
          (checkAllSigned scheme 0 last).map (fun _ => last) ∧
        Prepared.Progress scheme built
          (fun place key => (plans[place]?).any (·.authorizes payer.key key)) last) ∨
      ∃ plan ∈ plans, ∃ key, plan.authorizes payer.key key = true ∧
        (plan.draft payer.key).signs key = false ∧
        ((buildAndSign scheme network payer plans).runFrom world).1 =
          .error (.notASigner key) := by
  obtain ⟨_, count⟩ := of_runFrom_buildMessages builds
  have compiles : List.Forall₂ (Compiles payer.key) plans built :=
    of_buildMessages_ok ⟨world, congrArg Prod.fst builds⟩
  obtain ⟨calls, outcome, final, round, ran⟩ := exists_signingRound_of_buildMessages scheme builds
  have sameSigners := Signer.remoteFirst_perm (Plan.roster payer plans)
  have slots := oneSlotEach_of_compiles compiles
  rw [ran]
  rcases Prepared.Progress.of_round slots (Plan.placesOf_nodup payer.key plans)
      (Plan.placesOf_valid payer.key count)
      (fun signer member => Plan.forall_mem_roster payerBacked backed signer
        (sameSigners.mem_iff.1 member))
      (Prepared.Progress.start scheme slots) round with
    ⟨needed, last, rfl, progress⟩ | ⟨signer, _, strays, rfl⟩
  · left
    -- Every key that a plan authorizes is that of a signer in the round.
    have asked {plan : Plan ε} {key : Key} (member : plan ∈ plans)
        (authorizes : plan.authorizes payer.key key = true) :
        ∃ signer ∈ Signer.remoteFirst (Plan.roster payer plans), signer.key = key := by
      rw [Plan.authorizes, Bool.or_eq_true, beq_iff_eq] at authorizes
      have inRoster := Plan.mem_map_key_roster.2
        (authorizes.imp_right fun lists => ⟨plan, member, lists⟩)
      rw [← (sameSigners.map _).mem_iff] at inRoster
      exact List.mem_map.1 inRoster
    refine ⟨fun plan member key authorizes => ?_, last, rfl, progress.congr ?_⟩
    · obtain ⟨signer, inOrder, rfl⟩ := asked member authorizes
      by_contra needless
      exact needed signer inOrder ((Prepared.strays_iff compiles).2
        ⟨plan, member, authorizes, Bool.eq_false_iff.2 needless⟩)
    · intro place made _ key _
      rw [Bool.false_or, Bool.eq_iff_iff, List.any_eq_true, Option.any_eq_true]
      simp only [Bool.and_eq_true, List.contains_iff_mem, beq_iff_eq]
      constructor
      · rintro ⟨signer, _, member, rfl⟩
        exact mem_placesOf_iff_authorizes.1 member
      · rintro ⟨plan, found, authorizes⟩
        obtain ⟨signer, inOrder, rfl⟩ := asked (List.mem_of_getElem? found) authorizes
        exact ⟨signer, inOrder, mem_placesOf_iff_authorizes.2 ⟨plan, found, authorizes⟩, rfl⟩
  · right
    obtain ⟨plan, member, authorizes, needless⟩ := (Prepared.strays_iff compiles).1 strays
    exact ⟨plan, member, signer.key, authorizes, needless, rfl⟩

/-! ### The last check -/

section LastCheck

variable {payerKey : Key} {last : List Prepared}

/-- What the round leaves of the transaction of a plan. -/
theorem Prepared.Progress.signedBy (compiles : List.Forall₂ (Compiles payerKey) plans built)
    (progress : Progress scheme built
      (fun place key => (plans[place]?).any (·.authorizes payerKey key)) last)
    {place : Nat} {entry : Prepared} (found : last[place]? = some entry) :
    ∃ plan made, plans[place]? = some plan ∧ built[place]? = some made ∧
      Compiles payerKey plan made ∧ entry.SignedFor scheme made (plan.authorizes payerKey) := by
  have inBuilt : place < built.length := progress.length ▸ (List.getElem?_eq_some_iff.1 found).1
  have inPlans : place < plans.length := compiles.length_eq ▸ inBuilt
  have foundPlan := List.getElem?_eq_getElem inPlans
  have foundMade := List.getElem?_eq_getElem inBuilt
  have signedFor := progress.each place _ entry foundMade found
  rw [foundPlan] at signedFor
  exact ⟨_, _, foundPlan, foundMade, rel_of_getElem? compiles foundPlan foundMade, signedFor⟩

/-- A plan authorizes everybody who has to sign. -/
def Plan.Covered (payer : Key) (plan : Plan ε) : Prop :=
  ∀ key, (plan.draft payer).signs key = true → plan.authorizes payer key = true

theorem Plan.Covered.slotsSigned {plan : Plan ε} {made : BuiltMessage} {entry : Prepared}
    (honest : scheme.Honest) (covered : plan.Covered payerKey)
    (compiled : Compiles payerKey plan made)
    (signedFor : entry.SignedFor scheme made (plan.authorizes payerKey)) :
    entry.transaction.SlotsSigned scheme ∧ entry.transaction.FullySigned scheme := by
  have complete : ∀ key ∈ made.message.signerKeys, plan.authorizes payerKey key = true :=
    fun key member => covered key ((Draft.mem_signerKeys_of_compile compiled).1 member)
  exact ⟨signedFor.transaction.slotsSigned honest complete,
    signedFor.transaction.fullySigned honest compiled.oneSlotEach.length complete⟩

theorem checkAllSigned_of_covered (honest : scheme.Honest)
    (compiles : List.Forall₂ (Compiles payerKey) plans built)
    (progress : Prepared.Progress scheme built
      (fun place key => (plans[place]?).any (·.authorizes payerKey key)) last)
    (covered : ∀ plan ∈ plans, plan.Covered payerKey) : checkAllSigned scheme 0 last = .ok () := by
  refine checkAllSigned_eq_ok_iff.2 fun entry member => ?_
  obtain ⟨place, found⟩ := List.mem_iff_getElem?.1 member
  obtain ⟨plan, made, inPlans, _, compiled, signedFor⟩ := progress.signedBy compiles found
  exact ((covered plan (List.mem_of_getElem? inPlans)).slotsSigned honest compiled signedFor).1

/-- The first plan that does not authorize everybody is the one that the check names, with the first
key that has not signed. -/
theorem checkAllSigned_of_not_covered (honest : scheme.Honest)
    (compiles : List.Forall₂ (Compiles payerKey) plans built)
    (progress : Prepared.Progress scheme built
      (fun place key => (plans[place]?).any (·.authorizes payerKey key)) last)
    (gap : ∃ plan ∈ plans, ¬plan.Covered payerKey) :
    ∃ (earlier later : List (Plan ε)) (plan : Plan ε) (made : BuiltMessage)
      (before after : List Key) (key : Key),
      plans = earlier ++ plan :: later ∧ (∀ other ∈ earlier, other.Covered payerKey) ∧
      built[earlier.length]? = some made ∧
      made.message.signerKeys = before ++ key :: after ∧
      (∀ other ∈ before, plan.authorizes payerKey other = true) ∧
      plan.authorizes payerKey key = false ∧
      checkAllSigned scheme 0 last =
        .error (.signingIncomplete (.missing earlier.length key)) := by
  obtain ⟨earlier, plan, later, split, open_, covered⟩ := exists_first gap
  have inPlans : plans[earlier.length]? = some plan := by
    rw [split, List.getElem?_append_right (Nat.le_refl _), Nat.sub_self, List.getElem?_cons_zero]
  have within : earlier.length < last.length := by
    rw [progress.length, ← compiles.length_eq]
    exact (List.getElem?_eq_some_iff.1 inPlans).1
  obtain ⟨other, made, samePlans, inBuilt, compiled, signedFor⟩ :=
    progress.signedBy compiles (List.getElem?_eq_getElem within)
  obtain rfl := Option.some.inj (inPlans.symm.trans samePlans)
  -- Somebody who has to sign is not authorized, and so there is a first slot that stays blank.
  have missing : ∃ key ∈ made.message.signerKeys, plan.authorizes payerKey key = false := by
    by_contra none
    refine open_ fun key signs => ?_
    by_contra absent
    exact none ⟨key, (Draft.mem_signerKeys_of_compile compiled).2 signs,
      Bool.eq_false_iff.2 absent⟩
  obtain ⟨before, key, after, signers, absent, complete⟩ := exists_first missing
  have completeBefore : ∀ other ∈ before, plan.authorizes payerKey other = true :=
    fun other member => by simpa using complete other member
  refine ⟨earlier, later, plan, made, before, after, key, split,
    fun other member => not_not.1 (covered other member), inBuilt, signers, completeBefore,
    absent, ?_⟩
  have length : (last.take earlier.length).length = earlier.length :=
    List.length_take_of_le (Nat.le_of_lt within)
  rw [← List.take_append_drop earlier.length last, List.drop_eq_getElem_cons within]
  apply checkAllSigned_eq_error
  case passes =>
    intro entry member
    obtain ⟨place, found⟩ := List.mem_iff_getElem?.1 member
    obtain ⟨before, found⟩ := Option.ite_none_right_eq_some.1 (List.getElem?_take ▸ found)
    obtain ⟨other, _, atPlace, _, compiledOther, signedOther⟩ := progress.signedBy compiles found
    rw [split, List.getElem?_append_left before] at atPlace
    exact ((not_not.1 (covered other (List.mem_of_getElem? atPlace))).slotsSigned honest
      compiledOther signedOther).1
  case wrong =>
    rw [length, Nat.zero_add]
    exact signedFor.transaction.checkSigned_eq_error honest signers completeBefore absent

end LastCheck

section Outcome

variable (payerBacked : payer.Backed scheme)
  (backed : ∀ plan ∈ plans, ∀ signer ∈ plan.listed, signer.Backed scheme)
  (builds : (buildMessages network (.signer payer) plans).runFrom world =
    (.ok (built, entries), between))

include payerBacked backed builds

theorem buildAndSign_of_needless
    (needless : ∃ plan ∈ plans, ∃ key, plan.authorizes payer.key key = true ∧
      (plan.draft payer.key).signs key = false) :
    ∃ plan ∈ plans, ∃ key, plan.authorizes payer.key key = true ∧
      (plan.draft payer.key).signs key = false ∧
      ((buildAndSign scheme network payer plans).runFrom world).1 = .error (.notASigner key) := by
  rcases signs_or_refuses payerBacked backed builds with ⟨needed, _⟩ | refused
  · obtain ⟨plan, member, key, authorized, free⟩ := needless
    exact absurd (needed plan member key authorized) (Bool.eq_false_iff.1 free)
  · exact refused

theorem exists_progress_of_needed
    (needed : ∀ plan ∈ plans, ∀ key, plan.authorizes payer.key key = true →
      (plan.draft payer.key).signs key = true) :
    ∃ last,
      ((buildAndSign scheme network payer plans).runFrom world).1 =
        (checkAllSigned scheme 0 last).map (fun _ => last) ∧
      Prepared.Progress scheme built
        (fun place key => (plans[place]?).any (·.authorizes payer.key key)) last := by
  rcases signs_or_refuses payerBacked backed builds with
    ⟨_, done⟩ | ⟨plan, member, key, authorized, free, _⟩
  · exact done
  · exact absurd (needed plan member key authorized) (Bool.eq_false_iff.1 free)

theorem buildAndSign_of_gap (honest : scheme.Honest)
    (needed : ∀ plan ∈ plans, ∀ key, plan.authorizes payer.key key = true →
      (plan.draft payer.key).signs key = true)
    (gap : ∃ plan ∈ plans, ¬plan.Covered payer.key) :
    ∃ (earlier later : List (Plan ε)) (plan : Plan ε) (made : BuiltMessage)
      (before after : List Key) (key : Key),
      plans = earlier ++ plan :: later ∧ (∀ other ∈ earlier, other.Covered payer.key) ∧
      built[earlier.length]? = some made ∧
      made.message.signerKeys = before ++ key :: after ∧
      (∀ other ∈ before, plan.authorizes payer.key other = true) ∧
      plan.authorizes payer.key key = false ∧
      ((buildAndSign scheme network payer plans).runFrom world).1 =
        .error (.signingIncomplete (.missing earlier.length key)) := by
  obtain ⟨last, ended, progress⟩ := exists_progress_of_needed payerBacked backed builds needed
  obtain ⟨earlier, later, plan, made, before, after, key, split, covered, inBuilt, signers, complete,
    absent, stops⟩ := checkAllSigned_of_not_covered honest
      (of_buildMessages_ok ⟨world, congrArg Prod.fst builds⟩) progress gap
  refine ⟨earlier, later, plan, made, before, after, key, split, covered, inBuilt, signers, complete,
    absent, ?_⟩
  rw [ended, stops]
  rfl

theorem buildAndSign_of_covered (honest : scheme.Honest)
    (needed : ∀ plan ∈ plans, ∀ key, plan.authorizes payer.key key = true →
      (plan.draft payer.key).signs key = true)
    (covered : ∀ plan ∈ plans, plan.Covered payer.key) :
    ∃ last, ((buildAndSign scheme network payer plans).runFrom world).1 = .ok last ∧
      last.length = plans.length ∧
      ∀ (index : Nat) (entry : Prepared), last[index]? = some entry →
        ∃ plan made, plans[index]? = some plan ∧ built[index]? = some made ∧
          entry.transaction.verify scheme = .ok () ∧ entry.transaction.FullySigned scheme ∧
          entry.transaction.message = made.message ∧ entry.blockhash = made.blockhash ∧
          (plan.draft payer.key).compile plan.tables entry.blockhash.hash =
            .ok entry.transaction.message := by
  have compiles : List.Forall₂ (Compiles payer.key) plans built :=
    of_buildMessages_ok ⟨world, congrArg Prod.fst builds⟩
  obtain ⟨last, ended, progress⟩ := exists_progress_of_needed payerBacked backed builds needed
  rw [checkAllSigned_of_covered honest compiles progress covered] at ended
  refine ⟨last, ended, progress.length.trans compiles.length_eq.symm, fun index entry found => ?_⟩
  obtain ⟨plan, made, inPlans, inBuilt, compiled, signedFor⟩ := progress.signedBy compiles found
  obtain ⟨slots, fully⟩ :=
    (covered plan (List.mem_of_getElem? inPlans)).slotsSigned honest compiled signedFor
  have blockhash := signedFor.blockhash
  obtain ⟨signatures, transaction, _⟩ := signedFor.transaction
  have message : entry.transaction.message = made.message := by rw [transaction]; rfl
  have versioned : entry.transaction.isVersioned = true := by rw [transaction]; rfl
  refine ⟨plan, made, inPlans, inBuilt, (Transaction.verify_eq_ok_iff versioned).2 slots, fully,
    message, blockhash, ?_⟩
  rw [message, blockhash]
  exact compiled

end Outcome

/-- Signing with keypairs succeeds exactly when every plan lists those who have to sign, and then
every transaction verifies, carries the message of its plan and comes with the blockhash in that
message.  A key that is listed without need is refused; else the first gap is reported. -/
theorem buildAndSign_returns_iff_authorized (honest : scheme.Honest)
    (payerBacked : payer.Backed scheme)
    (backed : ∀ plan ∈ plans, ∀ signer ∈ plan.listed, signer.Backed scheme)
    (builds : (buildMessages network (.signer payer) plans).runFrom world =
      (.ok (built, entries), between)) :
    let authorizes := fun plan : Plan ε => plan.authorizes payer.key
    let requires := fun plan : Plan ε => (plan.draft payer.key).signs
    let outcome := ((buildAndSign scheme network payer plans).runFrom world).1
    ((∃ signed, outcome = .ok signed) ↔
      ∀ plan ∈ plans, ∀ key, authorizes plan key = requires plan key) ∧
    (∀ signed, outcome = .ok signed → signed.length = plans.length ∧
      ∀ (index : Nat) (entry : Prepared), signed[index]? = some entry →
        ∃ plan made, plans[index]? = some plan ∧ built[index]? = some made ∧
          entry.transaction.verify scheme = .ok () ∧ entry.transaction.FullySigned scheme ∧
          entry.transaction.message = made.message ∧ entry.blockhash = made.blockhash ∧
          (plan.draft payer.key).compile plan.tables entry.blockhash.hash =
            .ok entry.transaction.message) ∧
    ((∃ plan ∈ plans, ∃ key, authorizes plan key = true ∧ requires plan key = false) →
      ∃ plan ∈ plans, ∃ key, authorizes plan key = true ∧ requires plan key = false ∧
        outcome = .error (.notASigner key) ∧
        (Fault.notASigner key).message? = some ("Cannot sign with non signer key " ++ key.text)) ∧
    ((∀ plan ∈ plans, ∀ key, authorizes plan key = true → requires plan key = true) →
      (∃ plan ∈ plans, ∃ key, requires plan key = true ∧ authorizes plan key = false) →
      ∃ (earlier later : List (Plan ε)) (plan : Plan ε) (made : BuiltMessage)
        (before after : List Key) (key : Key),
        plans = earlier ++ plan :: later ∧
        (∀ other ∈ earlier, ∀ key, requires other key = true → authorizes other key = true) ∧
        built[earlier.length]? = some made ∧
        made.message.signerKeys = before ++ key :: after ∧
        (∀ other ∈ before, authorizes plan other = true) ∧ authorizes plan key = false ∧
        outcome = .error (.signingIncomplete (.missing earlier.length key))) := by
  intro authorizes requires outcome
  have needlessCase := buildAndSign_of_needless payerBacked backed builds
  have gapCase := buildAndSign_of_gap payerBacked backed builds honest
  have coveredCase := buildAndSign_of_covered payerBacked backed builds honest
  have same_of_returns : ∀ signed, outcome = .ok signed →
      ∀ plan ∈ plans, ∀ key, authorizes plan key = requires plan key := by
    intro signed returned
    have needed : ∀ plan ∈ plans, ∀ key, authorizes plan key = true →
        requires plan key = true := by
      intro plan member key authorized
      by_contra needless
      obtain ⟨_, _, _, _, _, refused⟩ :=
        needlessCase ⟨plan, member, key, authorized, Bool.eq_false_iff.2 needless⟩
      exact absurd (returned.symm.trans refused) (by simp)
    intro plan member key
    refine Bool.eq_iff_iff.2 ⟨needed plan member key, fun required => ?_⟩
    by_contra absent
    obtain ⟨_, _, _, _, _, _, _, _, _, _, _, _, _, stopped⟩ :=
      gapCase needed ⟨plan, member, fun covered => absent (covered key required)⟩
    exact absurd (returned.symm.trans stopped) (by simp)
  have done (same : ∀ plan ∈ plans, ∀ key, authorizes plan key = requires plan key) :=
    coveredCase (fun plan member key authorized => (same plan member key).symm.trans authorized)
      fun plan member key required => (same plan member key).trans required
  refine ⟨⟨?_, fun same => ?_⟩, fun signed returned => ?_, fun some => ?_, fun needed gap => ?_⟩
  · rintro ⟨signed, returned⟩
    exact same_of_returns signed returned
  · obtain ⟨last, returned, _⟩ := done same
    exact ⟨last, returned⟩
  · obtain ⟨last, ended, each⟩ := done (same_of_returns signed returned)
    obtain rfl := Except.ok.inj (ended.symm.trans returned)
    exact each
  · obtain ⟨plan, member, key, authorized, needless, refused⟩ := needlessCase some
    exact ⟨plan, member, key, authorized, needless, refused, rfl⟩
  · obtain ⟨plan, member, key, required, absent⟩ := gap
    exact gapCase needed ⟨plan, member, fun covered =>
      Bool.eq_false_iff.1 absent (covered key required)⟩

end Building

/-- The mark that a key leaves on a message: an odd number made of both. -/
def Signature.mark (key : Key) (message : Bytes) : Signature :=
  let digest := message.foldl (fun digest byte => 257 * digest + byte.toNat) 0
  Signature.ofNat (2 * (key.toNat + 2 ^ 256 * digest) + 1)

theorem Signature.mark_ne_blank (key : Key) (message : Bytes) : mark key message ≠ blank := by
  intro same
  have parity := congrArg (fun signature => signature.bits.toNat % 2) same
  have even : 2 ∣ 2 ^ 512 := dvd_pow_self 2 (by decide)
  simp only [mark, blank, ofNat, BitVec.toNat_ofNat, Nat.mod_mod_of_dvd _ even] at parity
  omega

/-- A scheme in which a signature is the mark of its key. -/
def SignatureScheme.marking : SignatureScheme :=
  ⟨fun seed => ⟨seed.bits⟩, fun seed => Signature.mark ⟨seed.bits⟩,
    fun key message signature => signature == Signature.mark key message⟩

theorem SignatureScheme.honest_marking : SignatureScheme.marking.Honest where
  verifies_sign _ _ := beq_self_eq_true _
  sign_ne_blank _ _ := Signature.mark_ne_blank _ _

theorem buildAndSign_returns_iff_authorized_sharedPlans :
    let payer := Signer.near .marking "payer" 1
    let plans := sharedPlans .marking
    SignatureScheme.marking.Honest ∧ payer.Backed .marking ∧
      (∀ plan ∈ plans, ∀ signer ∈ plan.listed, signer.Backed .marking) ∧
      ∃ built entries between, (buildMessages Script.network (.signer payer) plans).runFrom
          (World.start .plain) = (.ok (built, entries), between) ∧
        ∃ signed, ((buildAndSign .marking Script.network payer plans).runFrom
            (World.start .plain)).1 = .ok signed ∧ signed.length = 2 ∧
          ∀ entry ∈ signed, entry.transaction.FullySigned .marking := by
  intro payer plans
  have payerBacked : payer.Backed .marking := Signer.backed_near _ _ _
  have backed : ∀ plan ∈ plans, ∀ signer ∈ plan.listed, signer.Backed .marking := by
    simp [plans, sharedPlans, Plan.listed, or_imp, forall_and, Signer.backed_near,
      Signer.backed_far]
  have made : ((buildMessages Script.network (.signer payer) plans).runFrom
      (World.start .plain)).1.isOk = true := by
    decide +kernel
  have returns : ((buildAndSign .marking Script.network payer plans).runFrom
      (World.start .plain)).1.isOk = true := by
    decide +kernel
  obtain ⟨⟨built, entries⟩, made⟩ := isOk_iff.1 made
  obtain ⟨signed, returned⟩ := isOk_iff.1 returns
  obtain ⟨_, each, _⟩ := buildAndSign_returns_iff_authorized SignatureScheme.honest_marking
    payerBacked backed (Prod.ext made rfl)
  obtain ⟨length, entriesSigned⟩ := each signed returned
  refine ⟨SignatureScheme.honest_marking, payerBacked, backed, built, entries, _,
    Prod.ext made rfl, signed,
    returned, length, fun entry member => ?_⟩
  obtain ⟨index, found⟩ := List.mem_iff_getElem?.1 member
  obtain ⟨_, _, _, _, _, fully, _⟩ := entriesSigned index entry found
  exact fully

end SolanaTransactions
