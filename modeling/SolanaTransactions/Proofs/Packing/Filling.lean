/-
Module: SolanaTransactions.Proofs.Packing.Filling
Purpose: The packer as a relation between the open body, the unread instructions and the bodies.
Main exports:
  PackingJob.Fits, PackingJob.Keeps, PackingJob.Filling, PackingJob.fill_eq_ok_iff,
  PackingJob.pack_eq_ok_iff
-/
import SolanaTransactions.Packing.Packer
import SolanaTransactions.Proofs.Traversal

namespace SolanaTransactions.PackingJob

variable {σ : Type} {job : PackingJob σ}

/-!
The packer remembers tables next to the open body.  They are always those of
the estimate of that body, so a run is determined by the bodies alone, and a
batch by its body.
-/

/-- The batch around a body is within the limits of the network. -/
structure Fits (job : PackingJob σ) (body : List (Authorized σ)) : Prop where
  size : (job.estimate body).size ≤ maxTransactionSize
  uniqueKeys : (job.estimate body).uniqueKeys ≤ maxUniqueKeys

/-- The batch around a body keeps every limit. -/
structure Keeps (job : PackingJob σ) (body : List (Authorized σ)) : Prop extends
    Fits job body where
  count : (job.around body).length ≤ job.maxInstructions

theorem admits_eq_true_iff (body : List (Authorized σ)) :
    job.admits (job.estimate body) (job.around body).length = true ↔ job.Keeps body := by
  rw [admits, Bool.and_eq_true, Bool.and_eq_true, decide_eq_true_iff, decide_eq_true_iff,
    decide_eq_true_iff]
  constructor
  · rintro ⟨⟨size, uniqueKeys⟩, count⟩
    exact ⟨⟨size, uniqueKeys⟩, count⟩
  · intro keeps
    exact ⟨⟨keeps.size, keeps.uniqueKeys⟩, keeps.count⟩

theorem not_keeps_iff (body : List (Authorized σ)) :
    ¬job.Keeps body ↔ maxTransactionSize < (job.estimate body).size ∨
      maxUniqueKeys < (job.estimate body).uniqueKeys ∨
      job.maxInstructions < (job.around body).length := by
  rw [← Int.not_le, ← Int.not_le, ← Int.not_le, ← not_and_or, ← not_and_or]
  apply not_congr
  constructor
  · intro keeps
    exact ⟨keeps.size, keeps.uniqueKeys, keeps.count⟩
  · rintro ⟨size, uniqueKeys, count⟩
    exact ⟨⟨size, uniqueKeys⟩, count⟩

theorem refuseAlone_eq_none_iff (instruction : Authorized σ) :
    refuseAlone instruction (job.estimate [instruction]) = none ↔ job.Fits [instruction] := by
  rw [refuseAlone]
  constructor
  · intro passes
    split at passes
    · contradiction
    · next few =>
        split at passes
        · contradiction
        · next small => exact ⟨Int.not_lt.1 small, Int.not_lt.1 few⟩
  · intro fits
    rw [if_neg (Int.not_lt.2 fits.uniqueKeys), if_neg (Int.not_lt.2 fits.size)]

/-- The batch around a body, with the tables that its size is estimated with. -/
def batch (job : PackingJob σ) (body : List (Authorized σ)) : Batch σ :=
  ⟨job.around body, (job.estimate body).tables⟩

/-- The bodies that an open body leaves behind when it is closed: none when it is empty. -/
def closed : List (Authorized σ) → List (List (Authorized σ))
  | [] => []
  | first :: rest => [first :: rest]

theorem closed_of_ne_nil {body : List (Authorized σ)} (nonempty : body ≠ []) :
    closed body = [body] := by
  cases body with
  | nil => contradiction
  | cons first rest => rfl

theorem close_eq (body : List (Authorized σ)) :
    job.close body (job.estimate body).tables = (closed body).map job.batch := by
  cases body with
  | nil => rfl
  | cons first rest => rfl

/-- The bodies that an open body and the instructions after it are cut into. -/
inductive Filling (job : PackingJob σ) :
    List (Authorized σ) → List (Authorized σ) → List (List (Authorized σ)) → Prop
  | finish {body : List (Authorized σ)} : Filling job body [] (closed body)
  | grow {body rest : List (Authorized σ)} {next : Authorized σ}
      {bodies : List (List (Authorized σ))} :
      job.Keeps (body ++ [next]) → Filling job (body ++ [next]) rest bodies →
      Filling job body (next :: rest) bodies
  | restart {body rest : List (Authorized σ)} {next : Authorized σ}
      {bodies : List (List (Authorized σ))} :
      ¬job.Keeps (body ++ [next]) → job.Fits [next] → Filling job [next] rest bodies →
      Filling job body (next :: rest) (closed body ++ bodies)

-- The equations are stated here: generating those of the recursion unfolds the whole estimate.

theorem fill_nil (body : List (Authorized σ)) (tables : List LookupTable) :
    job.fill body tables [] = .ok (job.close body tables) := by
  rfl

theorem fill_cons (body rest : List (Authorized σ)) (tables : List LookupTable)
    (next : Authorized σ) :
    job.fill body tables (next :: rest) =
      if job.admits (job.estimate (body ++ [next])) (job.around (body ++ [next])).length then
        job.fill (body ++ [next]) (job.estimate (body ++ [next])).tables rest
      else
        match refuseAlone next (job.estimate [next]) with
        | some error => .error error
        | none =>
            (job.fill [next] (job.estimate [next]).tables rest).map
              (job.close body tables ++ ·) := by
  rfl

theorem fill_cons_of_keeps {body rest : List (Authorized σ)} {next : Authorized σ}
    (tables : List LookupTable) (keeps : job.Keeps (body ++ [next])) :
    job.fill body tables (next :: rest) =
      job.fill (body ++ [next]) (job.estimate (body ++ [next])).tables rest := by
  rw [fill_cons, if_pos ((admits_eq_true_iff _).2 keeps)]

theorem fill_cons_of_not_keeps {body rest : List (Authorized σ)} {next : Authorized σ}
    {batches : List (Batch σ)} (breaks : ¬job.Keeps (body ++ [next])) :
    job.fill body (job.estimate body).tables (next :: rest) = .ok batches ↔
      job.Fits [next] ∧ ∃ later,
        job.fill [next] (job.estimate [next]).tables rest = .ok later ∧
        batches = (closed body).map job.batch ++ later := by
  rw [fill_cons, if_neg (mt (admits_eq_true_iff _).1 breaks), ← refuseAlone_eq_none_iff, close_eq]
  cases refuseAlone next (job.estimate [next]) with
  | some error => simp
  | none =>
      cases job.fill [next] (job.estimate [next]).tables rest with
      | error error => simp [Except.map]
      | ok later => simp [Except.map, eq_comm]

theorem Filling.fill_eq {body rest : List (Authorized σ)} {bodies : List (List (Authorized σ))}
    (filling : job.Filling body rest bodies) :
    job.fill body (job.estimate body).tables rest = .ok (bodies.map job.batch) := by
  induction filling with
  | finish => rw [fill_nil, close_eq]
  | grow keeps _ ih => rw [fill_cons_of_keeps _ keeps, ih]
  | restart breaks alone _ ih =>
      rw [fill_cons_of_not_keeps breaks, List.map_append]
      exact ⟨alone, _, ih, rfl⟩

/-- The packer returns the batches of the bodies that it cuts its input into. -/
theorem fill_eq_ok_iff {body rest : List (Authorized σ)} {batches : List (Batch σ)} :
    job.fill body (job.estimate body).tables rest = .ok batches ↔
      ∃ bodies, job.Filling body rest bodies ∧ batches = bodies.map job.batch := by
  constructor
  · intro filled
    induction rest generalizing body batches with
    | nil =>
        rw [fill_nil, close_eq, Except.ok.injEq] at filled
        exact ⟨_, .finish, filled.symm⟩
    | cons next rest ih =>
        by_cases keeps : job.Keeps (body ++ [next])
        · rw [fill_cons_of_keeps _ keeps] at filled
          obtain ⟨bodies, filling, rfl⟩ := ih filled
          exact ⟨bodies, .grow keeps filling, rfl⟩
        · obtain ⟨alone, later, filledLater, rfl⟩ := (fill_cons_of_not_keeps keeps).1 filled
          obtain ⟨bodies, filling, rfl⟩ := ih filledLater
          exact ⟨_, .restart keeps alone filling, List.map_append.symm⟩
  · rintro ⟨bodies, filling, rfl⟩
    exact filling.fill_eq

/-- The scaffolding alone keeps the limits, and leaves room when there are instructions. -/
structure Opens (job : PackingJob σ) (instructions : List (Authorized σ)) : Prop extends
    Fits job [] where
  room : instructions ≠ [] → (job.around []).length + 1 ≤ job.maxInstructions

/-- What fits alone is within the count too, as the scaffolding leaves room for one. -/
theorem Fits.keeps_alone {next : Authorized σ} (fits : job.Fits [next])
    (room : (job.around []).length + 1 ≤ job.maxInstructions) : job.Keeps [next] := by
  refine ⟨fits, ?_⟩
  simp only [around, List.length_append, List.length_nil, List.length_singleton] at room ⊢
  omega

theorem refuseScaffolding_eq_none_iff (instructions : List (Authorized σ)) :
    job.refuseScaffolding instructions = none ↔ job.Opens instructions := by
  rw [refuseScaffolding]
  constructor
  · intro passes
    split at passes
    · contradiction
    · next few =>
        split at passes
        · contradiction
        · next small =>
            split at passes
            · contradiction
            · next room =>
                refine ⟨⟨Int.not_lt.1 small, Int.not_lt.1 few⟩, ?_⟩
                intro nonempty
                simpa [nonempty] using room
  · intro opens
    rw [if_neg (Int.not_lt.2 opens.uniqueKeys), if_neg (Int.not_lt.2 opens.size), if_neg]
    cases instructions with
    | nil => simp
    | cons first rest => simpa using opens.room

theorem pack_eq (instructions : List (Authorized σ)) :
    job.pack instructions =
      match job.refuseScaffolding instructions with
      | some error => .error error
      | none => job.fill [] (job.estimate []).tables instructions := by
  rfl

theorem pack_eq_ok_iff {instructions : List (Authorized σ)} {batches : List (Batch σ)} :
    job.pack instructions = .ok batches ↔
      job.Opens instructions ∧
        ∃ bodies, job.Filling [] instructions bodies ∧ batches = bodies.map job.batch := by
  rw [pack_eq, ← fill_eq_ok_iff, ← refuseScaffolding_eq_none_iff]
  cases job.refuseScaffolding instructions with
  | none => simp
  | some error => simp

end SolanaTransactions.PackingJob
