/-
Module: SolanaTransactions.Proofs.Packing.Partition
Purpose: The bodies of the batches are the packed instructions, cut only where a limit breaks.
Main exports: PackingJob.Filling.flatten_eq, PackingJob.Filling.isChain, PackingJob.pack_partitions
-/
import SolanaTransactions.Proofs.Packing.Filling

namespace SolanaTransactions.PackingJob

variable {σ : Type} {job : PackingJob σ} {body rest : List (Authorized σ)}
  {bodies : List (List (Authorized σ))}

/-- The first instruction of a body does not fit into the body before it. -/
def Overflows (job : PackingJob σ) (before following : List (Authorized σ)) : Prop :=
  ∃ next later, following = next :: later ∧ ¬job.Keeps (before ++ [next])

theorem flatten_closed (body : List (Authorized σ)) : (closed body).flatten = body := by
  cases body with
  | nil => rfl
  | cons first rest => exact List.append_nil _

theorem ne_nil_of_mem_closed {other : List (Authorized σ)} (member : other ∈ closed body) :
    other ≠ [] := by
  cases body with
  | nil => simp [closed] at member
  | cons first rest =>
      rw [closed, List.mem_singleton] at member
      rw [member]
      exact List.cons_ne_nil first rest

namespace Filling

theorem flatten_eq (filling : job.Filling body rest bodies) : bodies.flatten = body ++ rest := by
  induction filling with
  | finish => rw [flatten_closed, List.append_nil]
  | grow _ _ ih => rw [ih, List.append_assoc, List.singleton_append]
  | restart _ _ _ ih => rw [List.flatten_append, flatten_closed, ih, List.singleton_append]

theorem ne_nil_of_mem (filling : job.Filling body rest bodies) :
    ∀ other ∈ bodies, other ≠ [] := by
  induction filling with
  | finish => exact fun _ member => ne_nil_of_mem_closed member
  | grow _ _ ih => exact ih
  | restart _ _ _ ih =>
      intro other member
      rcases List.mem_append.1 member with inClosed | inLater
      · exact ne_nil_of_mem_closed inClosed
      · exact ih other inLater

/-- A body that is not empty is the start of the first body that comes out. -/
theorem exists_extension (filling : job.Filling body rest bodies) (nonempty : body ≠ []) :
    ∃ more later, bodies = (body ++ more) :: later := by
  induction filling with
  | finish => exact ⟨[], [], by rw [closed_of_ne_nil nonempty, List.append_nil]⟩
  | grow _ _ ih =>
      obtain ⟨more, later, rfl⟩ := ih (List.append_ne_nil_of_right_ne_nil _ (List.cons_ne_nil _ _))
      exact ⟨_, later, by rw [List.append_assoc]⟩
  | @restart _ _ _ bodies _ _ _ _ =>
      refine ⟨[], bodies, ?_⟩
      rw [closed_of_ne_nil nonempty, List.append_nil, List.singleton_append]

theorem isChain (filling : job.Filling body rest bodies) : bodies.IsChain job.Overflows := by
  induction filling with
  | @finish body =>
      cases body with
      | nil => exact .nil
      | cons first others => exact .singleton _
  | grow _ _ ih => exact ih
  | @restart body _ next bodies breaks _ filling ih =>
      cases body with
      | nil => exact ih
      | cons first others =>
          -- The closed body is followed by one that the breaking instruction opens.
          obtain ⟨more, later, rfl⟩ := filling.exists_extension (List.cons_ne_nil next [])
          exact .cons_cons ⟨next, more, rfl, breaks⟩ ih

end Filling

/-- Packing keeps every instruction once and in order, and closes a batch only when the next
instruction does not fit into it. -/
theorem pack_partitions {instructions : List (Authorized σ)} {batches : List (Batch σ)}
    (packed : job.pack instructions = .ok batches) :
    ∃ bodies : List (List (Authorized σ)),
      batches.map (·.instructions) =
        bodies.map (fun body => job.before ++ body ++ job.after) ∧
      (∀ body ∈ bodies, body ≠ []) ∧
      bodies.flatten = instructions ∧
      (batches = [] ↔ instructions = []) ∧
      bodies.IsChain fun body following => ∃ next later, following = next :: later ∧
        (maxTransactionSize < (job.estimate (body ++ [next])).size ∨
          maxUniqueKeys < (job.estimate (body ++ [next])).uniqueKeys ∨
          job.maxInstructions < (job.before ++ (body ++ [next]) ++ job.after).length) := by
  obtain ⟨_, bodies, filling, rfl⟩ := pack_eq_ok_iff.1 packed
  have whole : bodies.flatten = instructions := filling.flatten_eq
  have nonempty := filling.ne_nil_of_mem
  refine ⟨bodies, ?around, nonempty, whole, ?empty, ?breaks⟩
  case around =>
    rw [List.map_map]
    rfl
  case empty =>
    rw [List.map_eq_nil_iff]
    constructor
    · rintro rfl
      exact whole.symm
    · rintro rfl
      exact List.eq_nil_iff_forall_not_mem.2 fun body member =>
        nonempty body member (List.flatten_eq_nil_iff.1 whole body member)
  case breaks =>
    refine filling.isChain.imp ?_
    rintro body following ⟨next, later, split, breaks⟩
    exact ⟨next, later, split, (not_keeps_iff _).1 breaks⟩

/-- A call that writes one account. -/
def smallCall (account : Nat) : Authorized Unit :=
  ⟨⟨Key.ofNat 9, [⟨Key.ofNat account, false, true⟩], [1]⟩, [()]⟩

/-- Batches of at most three calls, the first of which is the same for all. -/
def smallJob : PackingJob Unit :=
  { payer := Key.ofNat 1
    before := [smallCall 7]
    after := []
    pool := []
    maxInstructions := 3 }

theorem pack_partitions_smallJob :
    ∃ batches, smallJob.pack [smallCall 2, smallCall 3, smallCall 4] = .ok batches ∧
      ∃ bodies : List (List (Authorized Unit)),
        batches.map (·.instructions) =
          bodies.map (fun body => smallJob.before ++ body ++ smallJob.after) ∧
        bodies.flatten = [smallCall 2, smallCall 3, smallCall 4] ∧ bodies.length = 2 := by
  have twoBatches : (smallJob.pack [smallCall 2, smallCall 3, smallCall 4]).map List.length =
      .ok 2 := by
    decide +kernel
  cases packed : smallJob.pack [smallCall 2, smallCall 3, smallCall 4] with
  | error error =>
      rw [packed] at twoBatches
      contradiction
  | ok batches =>
      rw [packed] at twoBatches
      obtain ⟨bodies, around, _, whole, _⟩ := pack_partitions packed
      have lengths := congrArg List.length around
      rw [List.length_map, List.length_map, Except.ok.inj twoBatches] at lengths
      exact ⟨batches, rfl, bodies, around, whole, lengths.symm⟩

end SolanaTransactions.PackingJob
