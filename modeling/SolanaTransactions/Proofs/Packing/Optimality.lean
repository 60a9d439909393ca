/-
Module: SolanaTransactions.Proofs.Packing.Optimality
Purpose: Without lookup tables the packer needs no more batches than any other cut of its input.
Main exports: PackingJob.Keeps.of_sublist, PackingJob.suffix_of_overflows, PackingJob.pack_optimal
-/
import Mathlib.Data.List.Chain
import SolanaTransactions.Proofs.Packing.Refusal

namespace SolanaTransactions.PackingJob

/-!
The packer stays ahead of every other cut: what it still has to pack after some
batches is a suffix of what the other cut still holds after as many blocks.  A
step keeps this, since a batch is closed only at an instruction that does not fit
into it, and without tables every part of a block that fits does so as well.
-/

variable {σ : Type} {job : PackingJob σ}

/-- Without tables a body that keeps the limits still keeps them when instructions are left out. -/
theorem Keeps.of_sublist (noTables : job.pool = []) {part whole : List (Authorized σ)}
    (sub : part.Sublist whole) (keeps : job.Keeps whole) : job.Keeps part where
  toFits := keeps.toFits.of_sublist noTables sub
  count := by
    have shorter := sub.length_le
    have fewer := keeps.count
    simp only [around, List.length_append] at fewer ⊢
    omega

/-- A body that is closed at an instruction that breaks it reaches at least as far as a block that
keeps the limits: what follows the body is part of what follows the block. -/
theorem suffix_of_overflows (noTables : job.pool = []) {body block later : List (Authorized σ)}
    {following : List (List (Authorized σ))} (ahead : body ++ following.flatten <:+ block ++ later)
    (overflows : ∀ next ∈ following.head?, job.Overflows body next) (keeps : job.Keeps block) :
    following.flatten <:+ later := by
  have rest : following.flatten <:+ block ++ later := (List.suffix_append _ _).trans ahead
  rcases List.suffix_or_suffix_of_suffix rest (List.suffix_append block later) with
    behind | ⟨more, split⟩
  · exact behind
  · cases following with
    | nil => exact List.nil_suffix
    | cons first others =>
        obtain ⟨next, remaining, rfl, breaks⟩ := overflows first rfl
        cases more with
        | nil => exact ⟨[], split.symm⟩
        | cons head tail =>
            -- The block would hold the body together with the instruction that breaks it.
            obtain rfl : head = next := (List.cons.inj split).1
            obtain ⟨front, whole⟩ := ahead
            rw [← split, ← List.append_assoc, ← List.append_assoc] at whole
            have inBlock : (front ++ body) ++ head :: tail = block := List.append_cancel_right whole
            refine absurd (keeps.of_sublist noTables ?_) breaks
            rw [← inBlock, List.append_assoc]
            refine List.Sublist.trans ?_ (List.sublist_append_right front _)
            exact (List.singleton_sublist.2 List.mem_cons_self).append_left body

/-- After any number of batches no more is left than after as many blocks. -/
theorem drop_suffix (noTables : job.pool = []) {bodies blocks : List (List (Authorized σ))}
    (chain : bodies.IsChain job.Overflows) (keeps : ∀ block ∈ blocks, job.Keeps block)
    (ahead : bodies.flatten <:+ blocks.flatten) (count : Nat) :
    (bodies.drop count).flatten <:+ (blocks.drop count).flatten := by
  induction count generalizing bodies blocks with
  | zero => exact ahead
  | succ count ih =>
      cases bodies with
      | nil => exact List.nil_suffix
      | cons body following =>
          cases blocks with
          | nil =>
              obtain ⟨_, none⟩ := List.append_eq_nil_iff.1 (List.suffix_nil.1 ahead)
              have nothing : following.flatten <:+ ([] : List (List (Authorized σ))).flatten :=
                none ▸ List.nil_suffix
              have later := ih chain.tail (List.forall_mem_nil _) nothing
              simpa using later
          | cons block later =>
              obtain ⟨here, others⟩ := List.forall_mem_cons.1 keeps
              exact ih chain.tail others
                (suffix_of_overflows noTables ahead (List.isChain_cons.1 chain).1 here)

theorem length_flatten_take_add {α : Type} (lists : List (List α)) (count : Nat) :
    (lists.take count).flatten.length + (lists.drop count).flatten.length =
      lists.flatten.length := by
  rw [← List.length_append, ← List.flatten_append, List.take_append_drop]

/-- Bodies that are ahead of some blocks at every count are no more in number. -/
theorem length_le_of_drop_suffix {bodies blocks : List (List (Authorized σ))}
    (nonempty : ∀ body ∈ bodies, body ≠ [])
    (ahead : ∀ count, (bodies.drop count).flatten <:+ (blocks.drop count).flatten) :
    bodies.length ≤ blocks.length := by
  have nothing := ahead blocks.length
  rw [List.drop_length, List.flatten_nil, List.suffix_nil, List.flatten_eq_nil_iff] at nothing
  rw [← List.drop_eq_nil_iff, List.eq_nil_iff_forall_not_mem]
  exact fun body left => nonempty body (List.mem_of_mem_drop left) (nothing body left)

/-- Without lookup tables the packer is optimal: no way of cutting its input into blocks that keep the
limits has fewer of them than there are batches, and the first blocks of a cut never cover more than
as many batches do. -/
theorem pack_optimal (noTables : job.pool = []) {instructions : List (Authorized σ)}
    {batches : List (Batch σ)} (packed : job.pack instructions = .ok batches) :
    ∃ bodies : List (List (Authorized σ)),
      batches.map (·.instructions) =
        bodies.map (fun body => job.before ++ body ++ job.after) ∧
      bodies.flatten = instructions ∧
      ∀ blocks : List (List (Authorized σ)), blocks.flatten = instructions →
        (∀ block ∈ blocks, (job.estimate block).size ≤ maxTransactionSize ∧
          (job.estimate block).uniqueKeys ≤ maxUniqueKeys ∧
          (job.before ++ block ++ job.after).length ≤ job.maxInstructions) →
        batches.length ≤ blocks.length ∧
          ∀ count, (blocks.take count).flatten.length ≤ (bodies.take count).flatten.length := by
  obtain ⟨_, bodies, filling, rfl⟩ := pack_eq_ok_iff.1 packed
  have whole : bodies.flatten = instructions := filling.flatten_eq
  refine ⟨bodies, ?around, whole, fun blocks cut limits => ?optimal⟩
  case around =>
    rw [List.map_map]
    rfl
  case optimal =>
    have keeps : ∀ block ∈ blocks, job.Keeps block := by
      intro block member
      obtain ⟨size, uniqueKeys, count⟩ := limits block member
      exact ⟨⟨size, uniqueKeys⟩, count⟩
    have same : bodies.flatten = blocks.flatten := whole.trans cut.symm
    have ahead := drop_suffix noTables filling.isChain keeps (same ▸ List.suffix_rfl)
    refine ⟨?_, fun count => ?_⟩
    · rw [List.length_map]
      exact length_le_of_drop_suffix filling.ne_nil_of_mem ahead
    · have left := (ahead count).length_le
      have bodiesTotal := length_flatten_take_add bodies count
      have blocksTotal := length_flatten_take_add blocks count
      rw [same] at bodiesTotal
      omega

/-- Three calls take two batches of two and one, and so does a cut into one and two. -/
theorem pack_optimal_smallJob :
    smallJob.pool = [] ∧
      ∃ batches, smallJob.pack [smallCall 2, smallCall 3, smallCall 4] = .ok batches ∧
        batches.length ≤ [[smallCall 2], [smallCall 3, smallCall 4]].length := by
  refine ⟨rfl, ?_⟩
  have packs : (smallJob.pack [smallCall 2, smallCall 3, smallCall 4]).isOk = true := by
    decide +kernel
  obtain ⟨batches, packed⟩ := isOk_iff.1 packs
  obtain ⟨_, _, _, optimal⟩ := pack_optimal rfl packed
  refine ⟨batches, packed, (optimal [[smallCall 2], [smallCall 3, smallCall 4]] rfl ?_).1⟩
  decide +kernel

end SolanaTransactions.PackingJob
