/-
Module: SolanaTransactions.Proofs.Submission.Guard
Purpose: What a submission checks before anything is sent, and what it does not check.
Main exports:
  Transaction.verify_eq_ok_iff, Submission.runFrom_launch_of_refused,
  Submission.trace_prefix_submit, submit_sends_iff_slotsSigned
-/
import SolanaTransactions.Proofs.Client.Trace
import SolanaTransactions.Proofs.Packing.Validity
import SolanaTransactions.Proofs.Signing.Soundness

namespace SolanaTransactions

/-!
The check comes first: a submission that fails it leaves the state as it was,
and one that passes it sends the bytes before it does anything else.  The check
is the walk over the slots that a transaction has, so what is sent is signed as
far as its slots go.
-/

variable {ε : Type}

theorem Transaction.verify_eq_ok_iff {scheme : SignatureScheme} {transaction : Transaction}
    (versioned : transaction.isVersioned = true) :
    transaction.verify scheme = .ok () ↔ transaction.SlotsSigned scheme := by
  rw [verify, if_pos versioned, checkSlots, checkFrom_eq_ok_iff, SlotsSigned]
  refine forall₂_congr fun position signature => imp_congr_right fun _ => ?_
  rw [Nat.zero_add, SlotPasses]
  refine exists_congr fun key => and_congr_right fun _ => ?_
  by_cases blank : signature = Signature.blank
  · simp [blank]
  · simp [blank, versioned]

namespace Submission

variable {scheme : SignatureScheme} {network : Network ε} {submission : Submission}

theorem launch_eq (scheme : SignatureScheme) (network : Network ε) (submission : Submission) :
    submission.launch scheme network =
      Client.ofExcept (submission.prepared.transaction.verify scheme) >>= fun _ =>
        Client.connectionOptions network >>= fun connection =>
          send network submission.raw (submission.effectiveOptions connection) >>= fun signature =>
            Client.depart network fun number now =>
              submission.departure (submission.effectiveOptions connection) number now
                (.ok signature) := by
  rfl

theorem submit_eq (scheme : SignatureScheme) (network : Network ε) (submission : Submission) :
    submit scheme network submission = submission.launch scheme network >>= fun number =>
      awaitReceipts network [number] >>= fun receipts =>
        match receipts with
        | receipt :: _ => pure receipt
        | [] => throw .connection := by
  rfl

/-- Sending begins with the event of it. -/
theorem trace_prefix_send (network : Network ε) (raw : Bytes) (options : SendOptions) (world : World ε) :
    world.trace ++ [⟨world.now, .sent raw options⟩] <+:
      ((send network raw options).runFrom world).2.trace := by
  have rest : (Client.askTimed (network.send raw options) >>= fun sending =>
      Client.wait network sending.seconds >>= fun _ => Client.ofExcept sending.reply).Grows :=
    .bind (.askTimed _) fun _ => .bind (.wait network _) fun _ => .ofExcept _
  exact rest (world.record (.sent raw options))

theorem trace_prefix_launch (network : Network ε)
    (passes : submission.prepared.transaction.verify scheme = .ok ())
    (world : World ε) :
    world.trace ++ [⟨world.now, .sent submission.raw
        (submission.effectiveOptions (network.options world.environment))⟩] <+:
      ((submission.launch scheme network).runFrom world).2.trace := by
  have sends := trace_prefix_send network submission.raw
    (submission.effectiveOptions (network.options world.environment)) world
  rw [launch_eq, passes, Client.runFrom_bind, Client.runFrom_ofExcept]
  dsimp only
  rw [Client.runFrom_bind]
  show _ <+: (Client.runFrom _ world).2.trace
  rw [Client.runFrom_bind]
  cases ran : (send network submission.raw
      (submission.effectiveOptions (network.options world.environment))).runFrom world with
  | mk outcome after =>
      rw [ran] at sends
      cases outcome with
      | error fault => exact sends
      | ok signature =>
          exact sends.trans (Client.Grows.depart network _ after)

theorem runFrom_submit_of_refused {fault : Fault}
    (refused : submission.prepared.transaction.verify scheme = .error fault) (world : World ε) :
    (submit scheme network submission).runFrom world = (.error fault, world) := by
  rw [submit_eq, launch_eq, refused, Client.runFrom_bind, Client.runFrom_bind,
    Client.runFrom_ofExcept]

/-- A submission that passes the check sends first of all. -/
theorem trace_prefix_submit (network : Network ε)
    (passes : submission.prepared.transaction.verify scheme = .ok ())
    (world : World ε) :
    world.trace ++ [⟨world.now, .sent submission.raw
        (submission.effectiveOptions (network.options world.environment))⟩] <+:
      ((submit scheme network submission).runFrom world).2.trace := by
  have launched := trace_prefix_launch network passes world
  rw [submit_eq, Client.runFrom_bind]
  cases ran : (submission.launch scheme network).runFrom world with
  | mk outcome after =>
      rw [ran] at launched
      cases outcome with
      | error fault => exact launched
      | ok flight =>
          refine launched.trans (Client.Grows.bind (grows_awaitReceipts network _) ?_ after)
          intro receipts
          cases receipts with
          | nil => exact .throw _
          | cons receipt _ => exact .pure _

end Submission

/-- A submission of a versioned transaction sends its bytes before anything else when every slot that
the transaction has is signed, and the transaction is then fully signed exactly when it has a slot
for every signer.  Otherwise the submission stops, and nothing has happened. -/
theorem submit_sends_iff_slotsSigned {scheme : SignatureScheme} {network : Network ε}
    {submission : Submission}
    (versioned : submission.prepared.transaction.isVersioned = true) (world : World ε) :
    let transaction := submission.prepared.transaction
    let options := submission.effectiveOptions (network.options world.environment)
    let run := (submit scheme network submission).runFrom world
    (transaction.SlotsSigned scheme →
        world.trace ++ [⟨world.now, .sent transaction.toBytes options⟩] <+: run.2.trace ∧
          (transaction.FullySigned scheme ↔
            transaction.message.requiredSignatures ≤ transaction.signatures.length)) ∧
      (¬transaction.SlotsSigned scheme → ∃ fault, run = (.error fault, world)) := by
  intro transaction options run
  constructor
  · intro signed
    have passes := (Transaction.verify_eq_ok_iff versioned).2 signed
    exact ⟨Submission.trace_prefix_submit network passes world, signed.fullySigned_iff versioned⟩
  · intro unsigned
    cases checked : transaction.verify scheme with
    | ok _ => exact absurd ((Transaction.verify_eq_ok_iff versioned).1 checked) unsigned
    | error fault => exact ⟨fault, Submission.runFrom_submit_of_refused checked world⟩

/-- The submission of a transaction of two signers, with some slots. -/
def Submission.ofTwo (slots : List Signature) : Submission :=
  .standard ⟨none, none⟩ (Prepared.ofTwo slots)

theorem submit_sends_iff_slotsSigned_ofTwo :
    let submission := Submission.ofTwo [Signature.ofNat 1, Signature.ofNat 2]
    submission.prepared.transaction.isVersioned = true ∧
      (∃ entry ∈ ((submit SignatureScheme.lenient Network.still submission).runFrom
          (World.start ())).2.trace, ∃ options,
        entry.event = .sent submission.prepared.transaction.toBytes options) ∧
      submission.prepared.transaction.FullySigned SignatureScheme.lenient := by
  intro submission
  have passes : submission.prepared.transaction.verify SignatureScheme.lenient = .ok () := by
    decide +kernel
  obtain ⟨sends, enough⟩ := (@submit_sends_iff_slotsSigned Unit SignatureScheme.lenient
    Network.still submission rfl (World.start ())).1 ((Transaction.verify_eq_ok_iff rfl).1 passes)
  exact ⟨rfl, ⟨_, sends.subset (List.mem_append_right _ (List.mem_singleton_self _)), _, rfl⟩,
    enough.2 (Nat.le_refl 2)⟩

/-- A transaction without any slots is sent although two signatures are missing. -/
theorem submit_sends_unsigned :
    ∃ (submission : Submission) (entry : TraceEntry) (options : SendOptions),
      submission.prepared.transaction.isVersioned = true ∧
      entry ∈ ((submit Ed25519.scheme Network.still submission).runFrom (World.start ())).2.trace ∧
      entry.event = .sent submission.prepared.transaction.toBytes options ∧
      ¬submission.prepared.transaction.FullySigned Ed25519.scheme := by
  have passes : (Submission.ofTwo []).prepared.transaction.verify Ed25519.scheme = .ok () := rfl
  have sends := Submission.trace_prefix_submit Network.still passes (World.start ())
  refine ⟨Submission.ofTwo [], _, _, rfl,
    sends.subset (List.mem_append_right _ (List.mem_singleton_self _)), rfl, ?_⟩
  intro fully
  obtain ⟨_, _, _, present, _⟩ := fully 0 (by decide)
  contradiction

end SolanaTransactions
