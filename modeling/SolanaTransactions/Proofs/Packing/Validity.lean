/-
Module: SolanaTransactions.Proofs.Packing.Validity
Purpose: Every batch of the packer compiles to a transaction within all limits.
Main exports:
  PackingJob.Filling.keeps_of_mem, PackingJob.exists_bodies_of_pack, Message.WithinLimits,
  PackingJob.Keeps.exists_compile, PackingJob.pack_builds_within_limits
-/
import SolanaTransactions.Outcome
import SolanaTransactions.Packing.Dynamic
import SolanaTransactions.Proofs.Packing.Partition
import SolanaTransactions.Proofs.Signing.Building
import SolanaTransactions.Proofs.Sizing.WireAgreement

namespace SolanaTransactions

/-!
The packer decides on estimates.  Every body that it closes was estimated as a
whole when its last instruction went in, so the limits hold of the body and of
the tables next to it; the number of instructions, which a restart does not
check, is within its limit since the scaffolding leaves room for one.  Within
the limits an estimate is exact, and the draft of a batch compiles.
-/

/-- A message whose transaction the network accepts, with at most some number of instructions. -/
structure Message.WithinLimits (message : Message) (maxInstructions : Int) : Prop where
  size : (Transaction.unsigned message).toBytes.length ≤ maxTransactionSize
  accounts : message.accountCount ≤ maxUniqueKeys
  instructions : message.body.instructions.length ≤ maxInstructions

namespace PackingJob

section Bodies

variable {σ : Type} {job : PackingJob σ} {body rest : List (Authorized σ)}
  {bodies : List (List (Authorized σ))} {tables : List LookupTable}

/-- Every body keeps the limits when the open one does, unless that is empty. -/
theorem Filling.keeps_of_mem (filling : job.Filling body rest bodies)
    (room : (job.around []).length + 1 ≤ job.maxInstructions)
    (opened : ∀ other ∈ closed body, job.Keeps other) : ∀ other ∈ bodies, job.Keeps other := by
  induction filling with
  | finish => exact opened
  | grow keeps _ ih =>
      apply ih
      intro other member
      rw [closed_of_ne_nil (List.append_ne_nil_of_right_ne_nil _ (List.cons_ne_nil _ _)),
        List.mem_singleton] at member
      exact member ▸ keeps
  | restart _ alone _ ih =>
      intro other member
      rcases List.mem_append.1 member with inClosed | inLater
      · exact opened other inClosed
      · refine ih ?_ other inLater
        -- A restart does not count the instructions; the room that the scaffolding leaves does.
        intro single inSingle
        exact List.mem_singleton.1 inSingle ▸ alone.keeps_alone room

/-- What the packer returns are the batches of bodies that keep the limits. -/
theorem exists_bodies_of_pack {instructions : List (Authorized σ)} {batches : List (Batch σ)}
    (packed : job.pack instructions = .ok batches) :
    ∃ bodies : List (List (Authorized σ)), batches = bodies.map job.batch ∧
      bodies.flatten = instructions ∧ (∀ body ∈ bodies, body ≠ []) ∧
      ∀ body ∈ bodies, job.Keeps body := by
  obtain ⟨opens, bodies, filling, rfl⟩ := pack_eq_ok_iff.1 packed
  refine ⟨bodies, rfl, filling.flatten_eq, filling.ne_nil_of_mem, ?_⟩
  cases instructions with
  | nil =>
      cases filling
      intro body member
      contradiction
  | cons first others =>
      have room := opens.room (List.cons_ne_nil first others)
      exact filling.keeps_of_mem room fun _ inNone => nomatch inNone

theorem keeps_of_mem_pack {instructions : List (Authorized σ)} {batches : List (Batch σ)}
    (packed : job.pack instructions = .ok batches) {batch : Batch σ} (member : batch ∈ batches) :
    ∃ body, job.Keeps body ∧ batch = job.batch body := by
  obtain ⟨bodies, rfl, _, _, keeps⟩ := exists_bodies_of_pack packed
  obtain ⟨body, inBodies, rfl⟩ := List.mem_map.1 member
  exact ⟨body, keeps body inBodies, rfl⟩

/-- A body that keeps the limits compiles with the tables of its estimate. -/
theorem Keeps.exists_compile (keeps : job.Keeps body)
    (pool : job.pool = tables.map Candidate.ofTable)
    (small : ∀ table ∈ tables, table.addresses.length ≤ 256) (blockhash : Blockhash) :
    ∃ message, Draft.compile ⟨job.payer, (job.around body).map (·.instruction)⟩
        (job.estimate body).tables blockhash = .ok message ∧
      message.WithinLimits job.maxInstructions := by
  have faithful : ∀ candidate ∈ job.pool, candidate.Faithful := by
    rw [pool]
    exact Candidate.faithful_ofTables tables
  let draft : Draft := ⟨job.payer, (job.around body).map (·.instruction)⟩
  have uniqueKeys : (job.estimate body).uniqueKeys = draft.keys.size :=
    uniqueKeys_estimateSize draft faithful
  have fewKeys := keeps.uniqueKeys
  rw [uniqueKeys, maxUniqueKeys] at fewKeys
  have smallChosen : ∀ table ∈ (job.estimate body).tables, table.addresses.length ≤ 256 := by
    intro table chosen
    obtain ⟨candidate, inPool, rfl⟩ := exists_candidate_of_mem_estimateSize chosen
    rw [pool] at inPool
    obtain ⟨listed, inTables, rfl⟩ := List.mem_map.1 inPool
    exact small listed inTables
  obtain ⟨message, compiled⟩ :=
    Draft.exists_compile blockhash (show draft.keys.size ≤ 255 by omega) smallChosen
  have counts := Draft.compiledTo_of_compile compiled
  refine ⟨message, compiled, ?size, ?accounts, ?instructions⟩
  case size =>
    have exact_size := length_toBytes_eq_size draft faithful compiled
      (List.length_replicate (a := Signature.blank)) keeps.size
    exact exact_size.trans_le keeps.size
  case accounts =>
    rw [counts.accounts, maxUniqueKeys]
    exact fewKeys
  case instructions =>
    obtain ⟨order, instructions⟩ := counts.instructions
    rw [instructions, List.length_map, List.length_map]
    exact keeps.count

theorem exists_compile_of_mem_pack {instructions : List (Authorized σ)}
    {batches : List (Batch σ)} (pool : job.pool = tables.map Candidate.ofTable)
    (small : ∀ table ∈ tables, table.addresses.length ≤ 256)
    (packed : job.pack instructions = .ok batches) {batch : Batch σ} (member : batch ∈ batches)
    (blockhash : Blockhash) :
    ∃ message, Draft.compile ⟨job.payer, batch.instructions.map (·.instruction)⟩ batch.tables
        blockhash = .ok message ∧
      message.WithinLimits job.maxInstructions := by
  obtain ⟨body, keeps, rfl⟩ := keeps_of_mem_pack packed member
  exact keeps.exists_compile pool small blockhash

end Bodies

end PackingJob

/-! ### Building the batches -/

/-- A network that answers everything at once and always in the same way. -/
def Network.still : Network Unit :=
  { commitment := fun _ => none
    options := fun _ => none
    latestBlockhash := fun _ _ => (.ok default, ())
    slot := fun _ _ => (.ok 0, ())
    accountData := fun _ _ => (.ok none, ())
    send := fun _ _ _ => (⟨0, .ok default⟩, ())
    confirm := fun _ _ _ _ => (⟨0, .ok default⟩, ())
    simulate := fun _ _ => (.ok default, ())
    prioritizationFees := fun _ _ => (.ok [], ()) }

section Building

variable {ε : Type}

namespace PackingJob

/-- Building what the packer returns never stops for want of a message, and gives transactions
within the limits that stay within them when their slots are filled. -/
theorem pack_builds_within_limits {job : PackingJob (Signer ε)} {tables : List LookupTable}
    {instructions : List (Authorized (Signer ε))} {batches : List (Batch (Signer ε))}
    (pool : job.pool = tables.map Candidate.ofTable)
    (small : ∀ table ∈ tables, table.addresses.length ≤ 256)
    (packed : job.pack instructions = .ok batches) (network : Network ε)
    (source : BlockhashSource) (payer : Payer ε) (pays : payer.account = job.payer)
    (world : World ε) :
    (∀ batch ∈ batches, ∀ blockhash cause,
      ((batch.plan source).draft payer.account).compile batch.tables blockhash ≠ .error cause) ∧
      match ((buildMessages network payer (batches.map (·.plan source))).runFrom world).1 with
      | .error fault => (source.resolve network).Yields (.error fault)
      | .ok (built, _) =>
          List.Forall₂ (fun batch entry =>
            ((batch.plan source).draft payer.account).compile batch.tables entry.blockhash.hash =
              .ok entry.message ∧
            (entry.prepare.transaction.toBytes.length : Int) ≤ maxTransactionSize ∧
            entry.message.accountCount ≤ maxUniqueKeys ∧
            entry.message.body.instructions.length ≤ job.maxInstructions ∧
            ∀ signatures : List Signature, signatures.length = entry.message.requiredSignatures →
              (entry.prepare.transaction.withSignatures signatures).toBytes.length =
                entry.prepare.transaction.toBytes.length) batches built := by
  have compiles : ∀ batch ∈ batches, ∀ blockhash, ∃ message,
      ((batch.plan source).draft payer.account).compile batch.tables blockhash = .ok message ∧
        message.WithinLimits job.maxInstructions := by
    intro batch member blockhash
    rw [pays]
    exact exists_compile_of_mem_pack pool small packed member blockhash
  have never : ∀ batch ∈ batches, ∀ blockhash cause,
      ((batch.plan source).draft payer.account).compile batch.tables blockhash ≠ .error cause := by
    intro batch member blockhash cause stopped
    obtain ⟨message, compiled, _⟩ := compiles batch member blockhash
    rw [stopped] at compiled
    contradiction
  refine ⟨never, ?_⟩
  cases ran : ((buildMessages network payer (batches.map (·.plan source))).runFrom world).1 with
  | error fault =>
      obtain ⟨plan, listed, cause⟩ := of_buildMessages_error ⟨world, ran⟩
      obtain ⟨batch, member, rfl⟩ := List.mem_map.1 listed
      rcases cause with unresolved | ⟨blockhash, cause, _, stopped⟩
      · exact unresolved
      · exact absurd stopped (never batch member blockhash cause)
  | ok result =>
      have each := of_buildMessages_ok ⟨world, ran⟩
      rw [List.forall₂_map_left_iff] at each
      refine ((List.forall₂_and_left _ _).2 ⟨compiles, each⟩).imp ?_
      rintro batch entry ⟨found, compiled⟩
      obtain ⟨message, same, limits⟩ := found entry.blockhash.hash
      obtain rfl := Except.ok.inj (same.symm.trans compiled)
      refine ⟨compiled, limits.size, limits.accounts, limits.instructions, ?_⟩
      intro signatures filled
      apply Transaction.length_toBytes_withSignatures
      rw [filled]
      exact List.length_replicate.symm

/-- Packing the wide call, which only fits with its table. -/
def wideJob : PackingJob (Signer Unit) :=
  { payer := Key.ofNat 1000
    before := []
    after := []
    pool := [wideTable].map Candidate.ofTable
    maxInstructions := 64 }

theorem pack_builds_within_limits_wideJob :
    ∃ batches, wideJob.pack [⟨wideCall, []⟩] = .ok batches ∧
      ∀ batch ∈ batches, ∀ blockhash cause,
        ((batch.plan (.latest none)).draft wideJob.payer).compile batch.tables blockhash ≠
          .error cause := by
  have packs : Outcome.isOk (wideJob.pack [⟨wideCall, []⟩]) = true := by
    decide +kernel
  cases packed : wideJob.pack [⟨wideCall, []⟩] with
  | error error =>
      rw [packed] at packs
      contradiction
  | ok batches =>
      have small : ∀ table ∈ [wideTable], table.addresses.length ≤ 256 := by
        decide +kernel
      exact ⟨batches, rfl, (pack_builds_within_limits rfl small packed Network.still
        (.latest none) (.key wideJob.payer) rfl (World.start ())).1⟩

end PackingJob

end Building

end SolanaTransactions
