/-
Module: SolanaTransactions.Proofs.Signing.Soundness
Purpose: What holds of the transactions that come out of signing, whatever the signers do.
Main exports:
  Prepared.mem_replace, Signer.KeepsVersioned, of_signPrepared_ok,
  fullySigned_iff_of_signPrepared
-/
import SolanaTransactions.Crypto.Ed25519
import SolanaTransactions.Proofs.Client.Run
import SolanaTransactions.Proofs.Signing.Slots

namespace SolanaTransactions

/-!
Signers may give back anything, so nothing but the last check speaks for the
result.  That signers who give back versioned transactions leave versioned ones
everywhere is an invariant of the round of signers.
-/

variable {ε : Type}

theorem mem_modify {α : Type} {change : α → α} {place : Nat} {elements : List α} {element : α}
    (member : element ∈ elements.modify place change) :
    element ∈ elements ∨ ∃ old ∈ elements, element = change old := by
  obtain ⟨position, found⟩ := List.mem_iff_getElem?.1 member
  rw [List.getElem?_modify, Option.map_eq_map, Option.map_eq_some_iff] at found
  obtain ⟨old, present, rfl⟩ := found
  have inElements := List.mem_of_getElem? present
  by_cases here : place = position
  · rw [if_pos here]
    exact Or.inr ⟨old, inElements, rfl⟩
  · rw [if_neg here]
    exact Or.inl inElements

/-- Every transaction was there before, or is one of those that take places. -/
theorem Prepared.mem_replace {prepared : List Prepared} {places : List Nat}
    {transactions : List Transaction} {entry : Prepared}
    (member : entry ∈ replace prepared places transactions) :
    (∃ old ∈ prepared, entry.transaction = old.transaction) ∨
      entry.transaction ∈ transactions := by
  have every : ∀ entry ∈ replace prepared places transactions,
      (∃ old ∈ prepared, entry.transaction = old.transaction) ∨
        entry.transaction ∈ transactions := by
    rw [replace]
    refine List.foldlRecOn (motive := fun current : List Prepared => ∀ entry ∈ current,
      (∃ old ∈ prepared, entry.transaction = old.transaction) ∨
        entry.transaction ∈ transactions) _ _ ?start ?step
    case start =>
      intro entry inPrepared
      exact Or.inl ⟨entry, inPrepared, rfl⟩
    case step =>
      rintro current ih ⟨place, transaction⟩ listed entry inModified
      rcases mem_modify inModified with kept | ⟨old, _, rfl⟩
      · exact ih entry kept
      · exact Or.inr (List.of_mem_zip listed).2
  exact every entry member

theorem Prepared.length_replace (prepared : List Prepared) (places : List Nat)
    (answered : List Transaction) : (replace prepared places answered).length = prepared.length := by
  rw [replace]
  refine List.foldlRecOn (motive := fun current : List Prepared =>
    current.length = prepared.length) _ _ rfl ?_
  intro current same pair _
  rw [List.length_modify, same]

/-- All transactions are versioned. -/
def Prepared.AllVersioned (prepared : List Prepared) : Prop :=
  ∀ entry ∈ prepared, entry.transaction.isVersioned = true

theorem Prepared.mem_select {prepared : List Prepared} {places : List Nat}
    {transaction : Transaction} (member : transaction ∈ select prepared places) :
    ∃ entry ∈ prepared, entry.transaction = transaction := by
  obtain ⟨place, _, found⟩ := List.mem_filterMap.1 member
  obtain ⟨entry, present, same⟩ := Option.map_eq_some_iff.1 found
  exact ⟨entry, List.mem_of_getElem? present, same⟩

/-- A signer that answers with versioned transactions, of any content, when it is asked to sign
versioned ones. -/
def Signer.KeepsVersioned (signer : Signer ε) : Prop :=
  ∀ asked environment answered, (∀ transaction ∈ asked, transaction.isVersioned = true) →
    (signer.respond asked environment).1 = .ok answered →
    ∀ transaction ∈ answered, transaction.isVersioned = true

theorem Signer.of_signAll_ok {signer : Signer ε} {asked answered : List Transaction}
    (yields : (signer.signAll asked).Yields (.ok answered)) :
    ∃ environment, (signer.respond asked environment).1 = .ok answered := by
  rw [signAll] at yields
  obtain ⟨_, _, answers⟩ := yields.of_bind_ok
  exact answers.of_ask

theorem of_signEntry_ok {prepared next : List Prepared} {registration : Registration ε}
    (yields : (signEntry prepared registration).Yields (.ok next)) :
    ∃ places answered,
      registration.positions.mapM (placeOf? prepared.length) = some places ∧
      (registration.signer.signAll (Prepared.select prepared places)).Yields (.ok answered) ∧
      answered.length = (Prepared.select prepared places).length ∧
      next = Prepared.replace prepared places answered := by
  rw [signEntry] at yields
  cases found : registration.positions.mapM (placeOf? prepared.length) with
  | none =>
      rw [found] at yields
      cases yields.of_throw
  | some places =>
      rw [found] at yields
      obtain ⟨answered, answers, checked⟩ := yields.of_bind_ok
      refine ⟨places, answered, rfl, answers, ?_⟩
      split at checked
      · next same =>
          cases checked.of_pure
          exact ⟨same, rfl⟩
      · cases checked.of_throw

theorem of_signPrepared_ok {scheme : SignatureScheme} {prepared signed : List Prepared}
    {entries : List (Registration ε)}
    (yields : (signPrepared scheme prepared entries).Yields (.ok signed)) :
    ((Registration.signingOrder entries).foldlM signEntry prepared).Yields (.ok signed) ∧
      ∀ entry ∈ signed, entry.transaction.SlotsSigned scheme := by
  rw [signPrepared] at yields
  obtain ⟨final, folded, later⟩ := yields.of_bind_ok
  obtain ⟨_, checked, returned⟩ := later.of_bind_ok
  cases returned.of_pure
  exact ⟨folded, checkAllSigned_eq_ok_iff.1 checked.of_ofExcept.symm⟩

theorem length_of_signPrepared {scheme : SignatureScheme} {prepared signed : List Prepared}
    {entries : List (Registration ε)}
    (yields : (signPrepared scheme prepared entries).Yields (.ok signed)) :
    signed.length = prepared.length := by
  refine (of_signPrepared_ok yields).1.foldlM_invariant
    (motive := fun current : List Prepared => current.length = prepared.length) ?_ rfl
  intro registration _ current next same step
  obtain ⟨places, answered, _, _, _, rfl⟩ := of_signEntry_ok step
  rw [Prepared.length_replace, same]

theorem Registration.mem_signingOrder {entries : List (Registration ε)}
    {registration : Registration ε} :
    registration ∈ signingOrder entries ↔ registration ∈ entries := by
  rw [signingOrder, List.mem_append, List.mem_filter, List.mem_filter]
  cases registration.signer.remote <;> simp

/-- Signers that answer with versioned transactions leave versioned transactions everywhere. -/
theorem Prepared.AllVersioned.sign {prepared signed : List Prepared}
    {entries : List (Registration ε)} (versioned : AllVersioned prepared)
    (answers : ∀ registration ∈ entries, registration.signer.KeepsVersioned)
    (yields : (entries.foldlM signEntry prepared).Yields (.ok signed)) :
    AllVersioned signed := by
  refine yields.foldlM_invariant ?_ versioned
  intro registration listed current next good step
  obtain ⟨places, answered, _, asked, _, rfl⟩ := of_signEntry_ok step
  obtain ⟨environment, response⟩ := Signer.of_signAll_ok asked
  intro entry member
  rcases mem_replace member with ⟨old, inCurrent, same⟩ | new
  · rw [same]
    exact good old inCurrent
  · refine answers registration listed _ environment answered ?_ response _ new
    intro transaction selected
    obtain ⟨other, inCurrent, rfl⟩ := mem_select selected
    exact good other inCurrent

/-- Whatever the signers do, a returned transaction has only slots whose signatures verify, and it
is fully signed exactly when it has a slot for every signer. -/
theorem fullySigned_iff_of_signPrepared {scheme : SignatureScheme}
    {prepared signed : List Prepared} {entries : List (Registration ε)} {world : World ε}
    (versioned : Prepared.AllVersioned prepared)
    (answers : ∀ registration ∈ entries, registration.signer.KeepsVersioned)
    (ran : ((signPrepared scheme prepared entries).runFrom world).1 = .ok signed) :
    ∀ entry ∈ signed,
      (∀ (position : Nat) (signature : Signature),
        entry.transaction.signatures[position]? = some signature →
        ∃ key, entry.transaction.keys[position]? = some key ∧ signature ≠ Signature.blank ∧
          scheme.verifies key entry.transaction.message.toBytes signature = true) ∧
      (entry.transaction.FullySigned scheme ↔
        entry.transaction.message.requiredSignatures ≤ entry.transaction.signatures.length) := by
  obtain ⟨folded, slots⟩ := of_signPrepared_ok ⟨world, ran⟩
  have stillVersioned := versioned.sign
    (fun registration listed => answers registration (Registration.mem_signingOrder.1 listed))
    folded
  intro entry member
  constructor
  · intro position signature present
    obtain ⟨key, held, filled, verifies⟩ := slots entry member position signature present
    exact ⟨key, held, filled, verifies (stillVersioned entry member)⟩
  · exact (slots entry member).fullySigned_iff (stillVersioned entry member)

/-- A signer that gives every transaction back as it is. -/
def Signer.idle : Signer Unit :=
  Signer.ofCallback "idle" (Key.ofNat 2) (fun asked environment => (.ok asked, environment)) none

theorem Signer.keepsVersioned_idle : Signer.idle.KeepsVersioned := by
  intro asked environment answered versioned response transaction member
  obtain rfl := Except.ok.inj response
  exact versioned transaction member

/-- A transaction of two signers, with some slots. -/
def Prepared.ofTwo (slots : List Signature) : Prepared :=
  { transaction := .versioned
      (.v0 ⟨⟨2, 0, 1⟩, [Key.ofNat 1, Key.ofNat 2, Key.ofNat 5000], Blockhash.zero,
        [⟨2, [1], [1]⟩]⟩ []) slots
    blockhash := ⟨Blockhash.zero, 50⟩
    commitment := Commitment.confirmed }

/-- A scheme under which every signature verifies. -/
def SignatureScheme.lenient : SignatureScheme :=
  ⟨fun seed => ⟨seed.bits⟩, fun _ _ => Signature.ofNat 1, fun _ _ _ => true⟩

theorem fullySigned_iff_of_signPrepared_idle :
    let entry := Prepared.ofTwo [Signature.ofNat 1, Signature.ofNat 2]
    ((signPrepared SignatureScheme.lenient [entry] [⟨Signer.idle, [0]⟩]).runFrom
        (World.start ())).1 = .ok [entry] ∧
      entry.transaction.FullySigned SignatureScheme.lenient := by
  intro entry
  have ran : ((signPrepared SignatureScheme.lenient [entry] [⟨Signer.idle, [0]⟩]).runFrom
      (World.start ())).1 = .ok [entry] := by
    decide +kernel
  have versioned : Prepared.AllVersioned [entry] := by
    intro other member
    rw [List.mem_singleton.1 member]
    rfl
  have answers : ∀ registration ∈ [(⟨Signer.idle, [0]⟩ : Registration Unit)],
      registration.signer.KeepsVersioned := by
    intro registration member
    rw [List.mem_singleton.1 member]
    exact Signer.keepsVersioned_idle
  obtain ⟨_, enough⟩ :=
    fullySigned_iff_of_signPrepared versioned answers ran entry (List.mem_singleton_self entry)
  exact ⟨ran, enough.2 (Nat.le_refl 2)⟩

/-- A transaction without any slots comes out of signing although two signatures are missing. -/
theorem signPrepared_returns_unsigned :
    ∃ (prepared signed : List Prepared) (entries : List (Registration Unit)),
      Prepared.AllVersioned prepared ∧
      (∀ registration ∈ entries, registration.signer.KeepsVersioned) ∧
      ((signPrepared Ed25519.scheme prepared entries).runFrom (World.start ())).1 = .ok signed ∧
      ¬∀ entry ∈ signed, entry.transaction.FullySigned Ed25519.scheme := by
  refine ⟨[Prepared.ofTwo []], [Prepared.ofTwo []], [⟨Signer.idle, [0]⟩], ?_, ?_, rfl, ?_⟩
  · intro other member
    rw [List.mem_singleton.1 member]
    rfl
  · intro registration member
    rw [List.mem_singleton.1 member]
    exact Signer.keepsVersioned_idle
  · intro fully
    obtain ⟨_, _, _, present, _⟩ := fully _ List.mem_cons_self 0 (by decide)
    contradiction

end SolanaTransactions
