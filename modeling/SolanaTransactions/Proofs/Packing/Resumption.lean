/-
Module: SolanaTransactions.Proofs.Packing.Resumption
Purpose: Packing goes on from the end of any batch, and settles all batches but the last one.
Main exports:
  PackingJob.Filling.tail, PackingJob.Filling.drop, PackingJob.Filling.dropLast_prefix,
  PackingJob.pack_resumes
-/
import SolanaTransactions.Proofs.Packing.Partition

namespace SolanaTransactions.PackingJob

/-!
Nothing of a closed batch is remembered: what follows it depends on the
instructions that follow.  A body in the middle of a run is opened by the
instruction that broke the one before, without counting; a fresh run puts its
first instruction into an empty body and counts it.  The two agree since the
scaffolding leaves room for one instruction.
-/

variable {σ : Type} {job : PackingJob σ} {body rest further instructions : List (Authorized σ)}
  {bodies others : List (List (Authorized σ))}

theorem Opens.of_ne_nil (opens : job.Opens instructions) (left : rest ≠ [] → instructions ≠ []) :
    job.Opens rest where
  toFits := opens.toFits
  room := fun some => opens.room (left some)

namespace Filling

/-- The bodies after the first one are those that a fresh run cuts their instructions into. -/
theorem tail (filling : job.Filling body rest bodies) (opens : job.Opens rest) :
    job.Filling [] bodies.tail.flatten bodies.tail := by
  induction filling with
  | @finish body =>
      cases body with
      | nil => exact .finish
      | cons first others => exact .finish
  | grow _ _ ih => exact ih (opens.of_ne_nil fun _ => List.cons_ne_nil _ _)
  | @restart body rest next bodies _ alone filling ih =>
      cases body with
      | nil => exact ih (opens.of_ne_nil fun _ => List.cons_ne_nil _ _)
      | cons first others =>
          -- A fresh run admits what opened this body, and is then where this run was.
          have keeps : job.Keeps [next] := alone.keeps_alone (opens.room (List.cons_ne_nil _ _))
          show job.Filling [] bodies.flatten bodies
          rw [filling.flatten_eq]
          exact .grow keeps filling

/-- The bodies after any number of them are those that a fresh run cuts their instructions into. -/
theorem drop (filling : job.Filling [] rest bodies) (opens : job.Opens rest) (count : Nat) :
    job.Opens (bodies.drop count).flatten ∧
      job.Filling [] (bodies.drop count).flatten (bodies.drop count) := by
  induction count with
  | zero =>
      have whole : bodies.flatten = rest := filling.flatten_eq
      rw [List.drop_zero, whole]
      exact ⟨opens, filling⟩
  | succ count ih =>
      obtain ⟨opened, later⟩ := ih
      rw [← List.tail_drop]
      refine ⟨opened.of_ne_nil ?_, later.tail opened⟩
      cases bodies.drop count with
      | nil => exact id
      | cons first others => exact List.append_ne_nil_of_right_ne_nil first

/-- With further instructions the same bodies are cut off, but for the one that was still open. -/
theorem dropLast_prefix (filling : job.Filling body rest bodies)
    (longer : job.Filling body (rest ++ further) others) : bodies.dropLast <+: others := by
  induction filling generalizing others with
  | @finish body =>
      cases body with
      | nil => exact List.nil_prefix
      | cons first more => exact List.nil_prefix
  | grow keeps _ ih =>
      cases longer with
      | grow _ longer => exact ih longer
      | restart breaks => contradiction
  | restart breaks _ filling ih =>
      cases longer with
      | grow keeps => contradiction
      | restart _ _ longer =>
          obtain ⟨_, _, rfl⟩ := filling.exists_extension (List.cons_ne_nil _ _)
          rw [List.dropLast_append_of_ne_nil (List.cons_ne_nil _ _)]
          exact (List.prefix_append_right_inj _).2 (ih longer)

end Filling

/-- Packing can be resumed at the end of every batch: what is left of the instructions is packed
into the batches that are left.  More instructions at the end leave all batches alone but the last
one. -/
theorem pack_resumes {batches : List (Batch σ)} (packed : job.pack instructions = .ok batches) :
    ∃ bodies : List (List (Authorized σ)),
      batches.map (·.instructions) =
        bodies.map (fun body => job.before ++ body ++ job.after) ∧
      bodies.flatten = instructions ∧
      (∀ count, job.pack (instructions.drop (bodies.take count).flatten.length) =
        .ok (batches.drop count)) ∧
      ∀ further longer, job.pack (instructions ++ further) = .ok longer →
        batches.dropLast <+: longer := by
  obtain ⟨opens, bodies, filling, rfl⟩ := pack_eq_ok_iff.1 packed
  have whole : bodies.flatten = instructions := filling.flatten_eq
  refine ⟨bodies, ?around, whole, fun count => ?resumed, fun further longer packedLonger => ?stable⟩
  case around =>
    rw [List.map_map]
    rfl
  case resumed =>
    have split : (bodies.take count).flatten ++ (bodies.drop count).flatten = instructions := by
      rw [← List.flatten_append, List.take_append_drop, whole]
    obtain ⟨opened, later⟩ := filling.drop opens count
    rw [← split, List.drop_left, ← List.map_drop]
    exact pack_eq_ok_iff.2 ⟨opened, _, later, rfl⟩
  case stable =>
    obtain ⟨_, others, fillingLonger, rfl⟩ := pack_eq_ok_iff.1 packedLonger
    rw [← List.map_dropLast]
    exact (filling.dropLast_prefix fillingLonger).map job.batch

/-- Three calls take two batches of two and one.  The last call alone takes the second one, and with
a fourth call the first one stays. -/
theorem pack_resumes_smallJob :
    ∃ batches longer, smallJob.pack [smallCall 2, smallCall 3, smallCall 4] = .ok batches ∧
      smallJob.pack ([smallCall 2, smallCall 3, smallCall 4] ++ [smallCall 5]) = .ok longer ∧
      batches.length = 2 ∧ smallJob.pack [smallCall 4] = .ok (batches.drop 1) ∧
      batches.dropLast <+: longer := by
  have counts : (smallJob.pack [smallCall 2, smallCall 3, smallCall 4]).map
      (List.map (·.instructions.length)) = .ok [3, 2] := by
    decide +kernel
  have packsLonger :
      (smallJob.pack ([smallCall 2, smallCall 3, smallCall 4] ++ [smallCall 5])).isOk = true := by
    decide +kernel
  obtain ⟨batches, packed, lengths⟩ := map_eq_ok_iff.1 counts
  obtain ⟨longer, packedLonger⟩ := isOk_iff.1 packsLonger
  obtain ⟨bodies, around, _, resumed, stable⟩ := pack_resumes packed
  have two : batches.length = 2 := by
    rw [← List.length_map, lengths]
    rfl
  have front : (bodies.take 1).flatten.length = 2 := by
    have sizes := congrArg (List.map List.length) around
    rw [List.map_map, List.map_map] at sizes
    cases bodies with
    | nil => exact absurd (lengths.symm.trans sizes) (List.cons_ne_nil _ _)
    | cons first others =>
        have three : 3 = (smallJob.before ++ first ++ smallJob.after).length :=
          (List.cons.inj (lengths.symm.trans sizes)).1
        simpa [smallJob] using three.symm
  have last := resumed 1
  rw [front] at last
  exact ⟨batches, longer, packed, packedLonger, two, last, stable _ longer packedLonger⟩

end SolanaTransactions.PackingJob
