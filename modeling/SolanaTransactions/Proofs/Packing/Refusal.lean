/-
Module: SolanaTransactions.Proofs.Packing.Refusal
Purpose: When packing fails, which error it reports, and that it never fails without a reason.
Main exports:
  PackingJob.Refuses, PackingJob.exists_filling, PackingJob.fill_eq_error,
  PackingJob.Fits.of_sublist, PackingJob.fill_eq_error_iff, PackingJob.pack_errors
-/
import SolanaTransactions.Proofs.Packing.Partition
import SolanaTransactions.Proofs.Sizing.Within

namespace SolanaTransactions.PackingJob

variable {σ : Type} {job : PackingJob σ} {body rest instructions : List (Authorized σ)}
  {offender : Authorized σ} {error : PackingError}

/-!
An instruction is looked at twice: at the end of the open body, and alone when
it does not fit there.  Only the second look refuses, so a refusal speaks of an
instruction alone in a batch, whatever was open before.  Without lookup tables
the first look never admits what the second one would refuse, so then the error
is that of the first instruction that does not fit alone.
-/

/-- An instruction alone in a batch breaks a limit of the network, and this is the error for it; too
many keys count before too many bytes. -/
inductive Refuses (job : PackingJob σ) (instruction : Authorized σ) : PackingError → Prop
  | crowded : maxUniqueKeys < (job.estimate [instruction]).uniqueKeys →
      Refuses job instruction (.crowdedInstruction instruction.instruction.program)
  | large : (job.estimate [instruction]).uniqueKeys ≤ maxUniqueKeys →
      maxTransactionSize < (job.estimate [instruction]).size →
      Refuses job instruction (.largeInstruction instruction.instruction.program)

theorem refuseAlone_eq_some_iff :
    refuseAlone offender (job.estimate [offender]) = some error ↔ job.Refuses offender error := by
  rw [refuseAlone]
  constructor
  · intro refused
    split at refused
    · next many =>
        obtain rfl := Option.some.inj refused
        exact .crowded many
    · next few =>
        split at refused
        · next big =>
            obtain rfl := Option.some.inj refused
            exact .large (Int.not_lt.1 few) big
        · contradiction
  · rintro (many | ⟨few, big⟩)
    · rw [if_pos many]
    · rw [if_neg (Int.not_lt.2 few), if_pos big]

theorem Refuses.not_fits (refuses : job.Refuses offender error) : ¬job.Fits [offender] := by
  intro fits
  cases refuses with
  | crowded many => exact Int.not_lt.2 fits.uniqueKeys many
  | large _ big => exact Int.not_lt.2 fits.size big

/-! ### One run of the packer -/

/-- Instructions that each fit alone are packed, whatever is open. -/
theorem exists_filling (alone : ∀ instruction ∈ rest, job.Fits [instruction])
    (body : List (Authorized σ)) : ∃ bodies, job.Filling body rest bodies := by
  induction rest generalizing body with
  | nil => exact ⟨_, .finish⟩
  | cons next rest ih =>
      obtain ⟨fits, later⟩ := List.forall_mem_cons.1 alone
      by_cases keeps : job.Keeps (body ++ [next])
      · obtain ⟨bodies, filling⟩ := ih later (body ++ [next])
        exact ⟨bodies, .grow keeps filling⟩
      · obtain ⟨bodies, filling⟩ := ih later [next]
        exact ⟨_, .restart keeps fits filling⟩

theorem fill_cons_eq_error {next : Authorized σ} {tables : List LookupTable}
    (breaks : ¬job.Keeps (body ++ [next]))
    (failed : job.fill body tables (next :: rest) = .error error) :
    job.Refuses next error ∨ job.Fits [next] ∧
      job.fill [next] (job.estimate [next]).tables rest = .error error := by
  rw [fill_cons, if_neg (mt (admits_eq_true_iff _).1 breaks)] at failed
  cases refused : refuseAlone next (job.estimate [next]) with
  | some other =>
      rw [refused] at failed
      obtain rfl := Except.error.inj failed
      exact Or.inl (refuseAlone_eq_some_iff.1 refused)
  | none =>
      rw [refused] at failed
      refine Or.inr ⟨(refuseAlone_eq_none_iff next).1 refused, ?_⟩
      cases later : job.fill [next] (job.estimate [next]).tables rest with
      | error other =>
          rw [later] at failed
          exact congrArg _ (Except.error.inj failed)
      | ok batches =>
          rw [later] at failed
          contradiction

/-- A run that fails has packed everything in front of an instruction that is refused alone. -/
theorem fill_eq_error (failed : job.fill body (job.estimate body).tables rest = .error error) :
    ∃ accepted offender later, rest = accepted ++ offender :: later ∧
      (∃ bodies, job.Filling body accepted bodies) ∧ job.Refuses offender error := by
  induction rest generalizing body with
  | nil =>
      rw [fill_nil] at failed
      contradiction
  | cons next rest ih =>
      by_cases keeps : job.Keeps (body ++ [next])
      · rw [fill_cons_of_keeps _ keeps] at failed
        obtain ⟨accepted, offender, later, rfl, ⟨bodies, filling⟩, refuses⟩ := ih failed
        exact ⟨next :: accepted, offender, later, rfl, ⟨bodies, .grow keeps filling⟩, refuses⟩
      · rcases fill_cons_eq_error keeps failed with refuses | ⟨alone, failedLater⟩
        · exact ⟨[], next, rest, rfl, ⟨_, .finish⟩, refuses⟩
        · obtain ⟨accepted, offender, later, rfl, ⟨bodies, filling⟩, refuses⟩ := ih failedLater
          exact ⟨next :: accepted, offender, later, rfl, ⟨_, .restart keeps alone filling⟩,
            refuses⟩

/-! ### Without tables -/

/-- Without tables a batch that fits still fits when instructions of its body are left out. -/
theorem Fits.of_sublist (noTables : job.pool = []) {part whole : List (Authorized σ)}
    (sub : part.Sublist whole) (fits : job.Fits whole) : job.Fits part := by
  have subAround : (job.around part).Sublist (job.around whole) :=
    (sub.append_left job.before).append_right job.after
  have within : Draft.Within ⟨job.payer, _⟩ ⟨job.payer, _⟩ :=
    Draft.Within.of_sublist (subAround.map fun authorized => authorized.instruction)
  obtain ⟨size, uniqueKeys⟩ := within.estimateSize_le
  have smaller := fits.size
  have fewer := fits.uniqueKeys
  simp only [estimate, noTables] at smaller fewer
  refine ⟨?_, ?_⟩
  · simp only [estimate, noTables]
    exact Int.le_trans size smaller
  · simp only [estimate, noTables]
    exact Int.le_trans uniqueKeys fewer

/-- Without tables a batch that fits still fits when all but the last of its body is taken out. -/
theorem Fits.of_append (noTables : job.pool = []) (fits : job.Fits (body ++ [offender])) :
    job.Fits [offender] :=
  fits.of_sublist noTables (List.sublist_append_right body [offender])

theorem Filling.fits_alone (noTables : job.pool = []) {bodies : List (List (Authorized σ))}
    (filling : job.Filling body rest bodies) : ∀ instruction ∈ rest, job.Fits [instruction] := by
  induction filling with
  | finish => exact fun _ member => nomatch member
  | grow keeps _ ih => exact List.forall_mem_cons.2 ⟨keeps.toFits.of_append noTables, ih⟩
  | restart _ alone _ ih => exact List.forall_mem_cons.2 ⟨alone, ih⟩

/-- Without tables a run fails with the error of the first instruction that does not fit alone. -/
theorem fill_eq_error_iff (noTables : job.pool = []) :
    job.fill body (job.estimate body).tables rest = .error error ↔
      ∃ accepted offender later, rest = accepted ++ offender :: later ∧
        (∀ instruction ∈ accepted, job.Fits [instruction]) ∧ job.Refuses offender error := by
  constructor
  · intro failed
    obtain ⟨accepted, offender, later, split, ⟨bodies, filling⟩, refuses⟩ := fill_eq_error failed
    exact ⟨accepted, offender, later, split, filling.fits_alone noTables, refuses⟩
  · rintro ⟨accepted, offender, later, rfl, alone, refuses⟩
    induction accepted generalizing body with
    | nil =>
        have breaks : ¬job.Keeps (body ++ [offender]) := fun keeps =>
          refuses.not_fits (keeps.toFits.of_append noTables)
        rw [List.nil_append, fill_cons, if_neg (mt (admits_eq_true_iff _).1 breaks),
          refuseAlone_eq_some_iff.2 refuses]
    | cons next accepted ih =>
        obtain ⟨fits, others⟩ := List.forall_mem_cons.1 alone
        by_cases keeps : job.Keeps (body ++ [next])
        · rw [List.cons_append, fill_cons_of_keeps _ keeps, ih others]
        · rw [List.cons_append, fill_cons, if_neg (mt (admits_eq_true_iff _).1 keeps),
            (refuseAlone_eq_none_iff next).2 fits, ih others]
          rfl

/-! ### Packing -/

/-- The scaffolding alone breaks a limit, and this is the error for it. -/
inductive RefusesScaffolding (job : PackingJob σ) (instructions : List (Authorized σ)) :
    PackingError → Prop
  | crowded : maxUniqueKeys < (job.estimate []).uniqueKeys →
      RefusesScaffolding job instructions .crowdedScaffolding
  | large : (job.estimate []).uniqueKeys ≤ maxUniqueKeys →
      maxTransactionSize < (job.estimate []).size →
      RefusesScaffolding job instructions .largeScaffolding
  | full : job.Fits [] → instructions ≠ [] →
      job.maxInstructions < (job.around []).length + 1 →
      RefusesScaffolding job instructions (.fullScaffolding job.maxInstructions)

theorem refuseScaffolding_eq_some_iff :
    job.refuseScaffolding instructions = some error ↔
      job.RefusesScaffolding instructions error := by
  rw [refuseScaffolding]
  constructor
  · intro refused
    split at refused
    · next many =>
        obtain rfl := Option.some.inj refused
        exact .crowded many
    · next few =>
        split at refused
        · next big =>
            obtain rfl := Option.some.inj refused
            exact .large (Int.not_lt.1 few) big
        · next small =>
            split at refused
            · next crammed =>
                obtain rfl := Option.some.inj refused
                simp only [Bool.and_eq_true, Bool.not_eq_true', List.isEmpty_eq_false_iff,
                  decide_eq_true_iff] at crammed
                exact .full ⟨Int.not_lt.1 small, Int.not_lt.1 few⟩ crammed.1 crammed.2
            · contradiction
  · rintro (many | ⟨few, big⟩ | ⟨fits, nonempty, crammed⟩)
    · rw [if_pos many]
    · rw [if_neg (Int.not_lt.2 few), if_pos big]
    · rw [if_neg (Int.not_lt.2 fits.uniqueKeys), if_neg (Int.not_lt.2 fits.size), if_pos]
      simpa [nonempty] using crammed

/-- Packing fails for its scaffolding or, when that passes, in its run. -/
theorem pack_eq_error_iff :
    job.pack instructions = .error error ↔ job.RefusesScaffolding instructions error ∨
      job.Opens instructions ∧
        job.fill [] (job.estimate []).tables instructions = .error error := by
  rw [pack_eq, ← refuseScaffolding_eq_some_iff, ← refuseScaffolding_eq_none_iff]
  cases job.refuseScaffolding instructions with
  | none => simp
  | some other => simp

theorem pack_eq_error_of_kind (failed : job.pack instructions = .error error)
    (single : error.kind = .instructionTooManyKeys ∨ error.kind = .instructionTooLarge) :
    job.Opens instructions ∧
      job.fill [] (job.estimate []).tables instructions = .error error := by
  rcases pack_eq_error_iff.1 failed with refused | ran
  · cases refused <;> simp [PackingError.kind] at single
  · exact ran

theorem Opens.of_append {accepted later : List (Authorized σ)}
    (opens : job.Opens (accepted ++ offender :: later)) : job.Opens accepted where
  toFits := opens.toFits
  room := fun _ => opens.room (List.append_ne_nil_of_right_ne_nil _ (List.cons_ne_nil _ _))

theorem exists_pack_of_fits (opens : job.Opens instructions)
    (alone : ∀ instruction ∈ instructions, job.Fits [instruction]) :
    ∃ batches, job.pack instructions = .ok batches := by
  obtain ⟨bodies, filling⟩ := exists_filling alone []
  exact ⟨_, pack_eq_ok_iff.2 ⟨opens, bodies, filling, rfl⟩⟩

theorem scaffoldingTooManyKeys_iff :
    (∃ error, job.pack instructions = .error error ∧ error.kind = .scaffoldingTooManyKeys) ↔
      maxUniqueKeys < (job.estimate []).uniqueKeys := by
  constructor
  · rintro ⟨error, failed, kind⟩
    rcases pack_eq_error_iff.1 failed with (many | _ | _) | ⟨_, ran⟩
    · exact many
    · contradiction
    · contradiction
    · obtain ⟨_, _, _, _, _, refuses⟩ := fill_eq_error ran
      cases refuses <;> contradiction
  · intro many
    exact ⟨_, pack_eq_error_iff.2 (Or.inl (.crowded many)), rfl⟩

theorem scaffoldingTooLarge_iff :
    (∃ error, job.pack instructions = .error error ∧ error.kind = .scaffoldingTooLarge) ↔
      (job.estimate []).uniqueKeys ≤ maxUniqueKeys ∧
        (maxTransactionSize < (job.estimate []).size ∨
          instructions ≠ [] ∧ job.maxInstructions < (job.around []).length + 1) := by
  constructor
  · rintro ⟨error, failed, kind⟩
    rcases pack_eq_error_iff.1 failed with (_ | ⟨few, big⟩ | ⟨fits, nonempty, crammed⟩) | ⟨_, ran⟩
    · contradiction
    · exact ⟨few, Or.inl big⟩
    · exact ⟨fits.uniqueKeys, Or.inr ⟨nonempty, crammed⟩⟩
    · obtain ⟨_, _, _, _, _, refuses⟩ := fill_eq_error ran
      cases refuses <;> contradiction
  · rintro ⟨few, breaks⟩
    rcases Int.lt_or_le maxTransactionSize (job.estimate []).size with big | small
    · exact ⟨_, pack_eq_error_iff.2 (Or.inl (.large few big)), rfl⟩
    · obtain ⟨nonempty, crammed⟩ := breaks.resolve_left (Int.not_lt.2 small)
      exact ⟨_, pack_eq_error_iff.2 (Or.inl (.full ⟨small, few⟩ nonempty crammed)), rfl⟩

/-- Packing succeeds when the scaffolding leaves room and every instruction fits alone.  An error about
an instruction is about one that does not fit alone, behind instructions that can be packed; an error
about the scaffolding is reported exactly when that breaks a limit.  Without tables the first
instruction that does not fit alone decides. -/
theorem pack_errors (job : PackingJob σ) (instructions : List (Authorized σ)) :
    (job.Opens instructions → (∀ instruction ∈ instructions, job.Fits [instruction]) →
        ∃ batches, job.pack instructions = .ok batches) ∧
      (∀ error, job.pack instructions = .error error →
        error.kind = .instructionTooManyKeys ∨ error.kind = .instructionTooLarge →
        ∃ accepted offender later, instructions = accepted ++ offender :: later ∧
          error.program? = some offender.instruction.program ∧
          (error.kind = .instructionTooManyKeys →
            maxUniqueKeys < (job.estimate [offender]).uniqueKeys) ∧
          (error.kind = .instructionTooLarge →
            (job.estimate [offender]).uniqueKeys ≤ maxUniqueKeys ∧
              maxTransactionSize < (job.estimate [offender]).size) ∧
          ∃ batches, job.pack accepted = .ok batches) ∧
      ((∃ error, job.pack instructions = .error error ∧ error.kind = .scaffoldingTooManyKeys) ↔
        maxUniqueKeys < (job.estimate []).uniqueKeys) ∧
      ((∃ error, job.pack instructions = .error error ∧ error.kind = .scaffoldingTooLarge) ↔
        (job.estimate []).uniqueKeys ≤ maxUniqueKeys ∧
          (maxTransactionSize < (job.estimate []).size ∨
            instructions ≠ [] ∧ job.maxInstructions < (job.around []).length + 1)) ∧
      (job.pool = [] → job.Opens instructions →
        ((∃ batches, job.pack instructions = .ok batches) ↔
          ∀ instruction ∈ instructions, job.Fits [instruction]) ∧
        ∀ error, job.pack instructions = .error error ↔
          ∃ accepted offender later, instructions = accepted ++ offender :: later ∧
            (∀ instruction ∈ accepted, job.Fits [instruction]) ∧ job.Refuses offender error) := by
  refine ⟨exists_pack_of_fits, ?truthful, scaffoldingTooManyKeys_iff, scaffoldingTooLarge_iff,
    ?withoutTables⟩
  case truthful =>
    intro error failed single
    obtain ⟨opens, ran⟩ := pack_eq_error_of_kind failed single
    obtain ⟨accepted, offender, later, rfl, ⟨bodies, filling⟩, refuses⟩ := fill_eq_error ran
    refine ⟨accepted, offender, later, rfl, ?_, ?_, ?_,
      _, pack_eq_ok_iff.2 ⟨opens.of_append, bodies, filling, rfl⟩⟩
    · cases refuses <;> rfl
    · intro kind
      cases refuses with
      | crowded many => exact many
      | large _ _ => contradiction
    · intro kind
      cases refuses with
      | crowded _ => contradiction
      | large few big => exact ⟨few, big⟩
  case withoutTables =>
    intro noTables opens
    constructor
    · constructor
      · rintro ⟨batches, packed⟩
        obtain ⟨_, bodies, filling, _⟩ := pack_eq_ok_iff.1 packed
        exact filling.fits_alone noTables
      · exact exists_pack_of_fits opens
    · intro error
      rw [← fill_eq_error_iff noTables, pack_eq, (refuseScaffolding_eq_none_iff _).2 opens]

/-- A call whose data alone exceed a transaction. -/
def hugeCall : Authorized Unit := ⟨⟨Key.ofNat 10, [], List.replicate 1300 0⟩, []⟩

theorem pack_errors_hugeCall :
    smallJob.pack [smallCall 2, hugeCall, smallCall 3] = .error (.largeInstruction (Key.ofNat 10)) ∧
      ∃ accepted offender later,
        [smallCall 2, hugeCall, smallCall 3] = accepted ++ offender :: later ∧
        maxTransactionSize < (smallJob.estimate [offender]).size ∧
        ∃ batches, smallJob.pack accepted = .ok batches := by
  have fails : (smallJob.pack [smallCall 2, hugeCall, smallCall 3]).map (fun _ => ()) =
      .error (.largeInstruction (Key.ofNat 10)) := by
    decide +kernel
  cases packed : smallJob.pack [smallCall 2, hugeCall, smallCall 3] with
  | ok batches =>
      rw [packed] at fails
      contradiction
  | error error =>
      rw [packed] at fails
      obtain rfl := Except.error.inj fails
      obtain ⟨accepted, offender, later, split, _, _, large, prior⟩ :=
        (pack_errors smallJob _).2.1 _ packed (Or.inr rfl)
      exact ⟨rfl, accepted, offender, later, split, (large rfl).2, prior⟩

end SolanaTransactions.PackingJob
