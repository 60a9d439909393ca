/-
Module: SolanaTransactions.Proofs.Packing.Single
Purpose: When a stream that fits in one transaction is packed into one.
Main exports:
  PackingJob.pack_eq_single_iff, PackingJob.fits_of_prefix, PackingJob.pack_single
-/
import SolanaTransactions.Proofs.Packing.Partition
import SolanaTransactions.Proofs.Sizing.ApartTables

namespace SolanaTransactions.PackingJob

/-!
The packer reaches a whole stream through its prefixes, and looks for tables
anew at each of them.  With tables that overlap a prefix may end in a worse
choice than the whole: a table that is the best one for the prefix is not
committed for the whole, where a later account makes another one better.  When
no account of the stream is in two tables the choice for the whole serves every
prefix, and the search finds one as good.
-/

variable {σ : Type} {job : PackingJob σ} {body rest instructions front : List (Authorized σ)}
  {bodies : List (List (Authorized σ))}

/-! ### One batch and the prefixes of its body -/

theorem length_around (body : List (Authorized σ)) :
    (job.around body).length = (job.around []).length + body.length := by
  simp only [around, List.length_append, List.length_nil]
  omega

/-- The run of the packer stays in the open body as long as that keeps the limits. -/
theorem filling_of_prefixes
    (keeps : ∀ front, front <+: rest → front ≠ [] → job.Keeps (body ++ front)) :
    job.Filling body rest (closed (body ++ rest)) := by
  induction rest generalizing body with
  | nil =>
      rw [List.append_nil]
      exact .finish
  | cons next rest ih =>
      have grown : job.Keeps (body ++ [next]) :=
        keeps [next] (List.prefix_append [next] rest) (List.cons_ne_nil _ _)
      rw [← List.singleton_append, ← List.append_assoc]
      refine .grow grown (ih fun front ahead _ => ?_)
      rw [List.append_assoc, List.singleton_append]
      exact keeps (next :: front) ((List.prefix_cons_inj next).2 ahead) (List.cons_ne_nil _ _)

/-- A run that leaves one body has grown it through all its prefixes. -/
theorem Filling.keeps_of_single (filling : job.Filling body rest bodies) (nonempty : body ≠ [])
    (single : bodies.length = 1) (ahead : front <+: rest) (some : front ≠ []) :
    job.Keeps (body ++ front) := by
  induction filling generalizing front with
  | finish => exact absurd (List.prefix_nil.1 ahead) some
  | @grow body rest next bodies keeps _ ih =>
      obtain ⟨more, rfl, later⟩ | rfl := (List.prefix_cons_iff.1 ahead).symm
      · cases more with
        | nil => exact keeps
        | cons head tail =>
            rw [← List.singleton_append, ← List.append_assoc]
            exact ih (List.append_ne_nil_of_right_ne_nil _ (List.cons_ne_nil _ _)) single later
              (List.cons_ne_nil _ _)
      · contradiction
  | restart _ _ filling =>
      obtain ⟨more, later, split⟩ := filling.exists_extension (List.cons_ne_nil _ _)
      rw [split, closed_of_ne_nil nonempty] at single
      simp at single

theorem pack_of_prefixes (nonempty : instructions ≠ [])
    (count : (job.around instructions).length ≤ job.maxInstructions)
    (fits : ∀ front, front <+: instructions → job.Fits front) :
    job.pack instructions = .ok [job.batch instructions] := by
  have shorter : ∀ {front : List (Authorized σ)}, front <+: instructions →
      ((job.around front).length : Int) ≤ job.maxInstructions := by
    intro front ahead
    have lengths := ahead.length_le
    rw [length_around] at count ⊢
    omega
  have filling : job.Filling [] instructions (closed instructions) :=
    filling_of_prefixes fun front ahead _ => ⟨fits front ahead, shorter ahead⟩
  refine pack_eq_ok_iff.2 ⟨⟨fits [] List.nil_prefix, fun _ => ?_⟩, _, filling, ?_⟩
  · have positive := List.length_pos_iff.2 nonempty
    rw [length_around] at count
    omega
  · rw [closed_of_ne_nil nonempty]
    rfl

/-- A stream is packed into one batch exactly when all of its prefixes are within the limits of the
network, and the whole within the number of instructions. -/
theorem pack_eq_single_iff (nonempty : instructions ≠ []) :
    (∃ batch, job.pack instructions = .ok [batch]) ↔
      (job.around instructions).length ≤ job.maxInstructions ∧
        ∀ front, front <+: instructions → job.Fits front := by
  constructor
  · rintro ⟨batch, packed⟩
    obtain ⟨opens, bodies, filling, single⟩ := pack_eq_ok_iff.1 packed
    have length : bodies.length = 1 := by
      rw [← List.length_map, ← single, List.length_singleton]
    have keeps : ∀ front, front <+: instructions → front ≠ [] → job.Keeps front := by
      cases filling with
      | finish => contradiction
      | @grow _ rest next _ first filling =>
          intro front ahead some
          obtain ⟨more, rfl, later⟩ := (List.prefix_cons_iff.1 ahead).resolve_left some
          cases more with
          | nil => exact first
          | cons head tail =>
              exact filling.keeps_of_single (List.cons_ne_nil _ _) length later
                (List.cons_ne_nil _ _)
      | @restart _ rest next _ breaks alone filling =>
          -- The scaffolding leaves room, so a first instruction that fits alone is not put off.
          refine absurd ⟨alone, ?_⟩ breaks
          rw [List.nil_append, length_around]
          exact opens.room nonempty
    refine ⟨(keeps instructions (List.prefix_refl _) nonempty).count, fun front ahead => ?_⟩
    by_cases empty : front = []
    · exact empty ▸ opens.toFits
    · exact (keeps front ahead empty).toFits
  · rintro ⟨count, fits⟩
    exact ⟨_, pack_of_prefixes nonempty count fits⟩

/-! ### Tables that share no account of the stream -/

section Tables

variable {tables : List LookupTable}

/-- The transaction around a body, before any table is chosen for it. -/
def draft (job : PackingJob σ) (body : List (Authorized σ)) : Draft :=
  ⟨job.payer, (job.around body).map (·.instruction)⟩

theorem uniqueKeys_estimate (pool : job.pool = tables.map Candidate.ofTable)
    (body : List (Authorized σ)) :
    (job.estimate body).uniqueKeys = (job.draft body).keys.size :=
  uniqueKeys_estimateSize (job.draft body) (pool ▸ Candidate.faithful_ofTables tables)

theorem draft_within_of_front (ahead : front <+: instructions) :
    (job.draft front).Within (job.draft instructions) :=
  Draft.Within.of_sublist
    (((ahead.sublist.append_left job.before).append_right job.after).map _)

/-- A prefix has no more distinct accounts than the whole. -/
theorem uniqueKeys_le_of_front (pool : job.pool = tables.map Candidate.ofTable)
    (ahead : front <+: instructions) :
    (job.estimate front).uniqueKeys ≤ (job.estimate instructions).uniqueKeys := by
  rw [uniqueKeys_estimate pool, uniqueKeys_estimate pool]
  exact Int.ofNat_le.2 (draft_within_of_front ahead).size_keys_le

/-- When no account of a stream is in two tables, what fits as a whole fits in each of its prefixes. -/
theorem Fits.of_prefix (pool : job.pool = tables.map Candidate.ofTable)
    (apart : tables.Pairwise fun first second => ∀ authorized ∈ job.around instructions,
      ∀ account ∈ authorized.instruction.accounts,
        account.key ∈ first.addresses → account.key ∉ second.addresses)
    (fits : job.Fits instructions) (ahead : front <+: instructions) : job.Fits front := by
  have faithful : ∀ candidate ∈ job.pool, candidate.Faithful :=
    pool ▸ Candidate.faithful_ofTables tables
  have within : (job.draft front).Within (job.draft instructions) := draft_within_of_front ahead
  have keys : (job.estimate front).uniqueKeys ≤ maxUniqueKeys :=
    Int.le_trans (uniqueKeys_le_of_front pool ahead) fits.uniqueKeys
  have unshared : job.pool.Pairwise fun first second => LookupTable.Apart
      (loadableKeys (job.draft front).instructions job.payer) first.table second.table := by
    rw [pool, List.pairwise_map]
    refine apart.imp fun unshared key member => ?_
    -- What a table may load for the prefix is an account of one of its instructions.
    have mentioned := (KeySet.mem_difference.1 member).1
    simp only [draft, KeySet.mem_ofList, List.mem_flatMap, List.mem_map] at mentioned
    obtain ⟨_, ⟨authorized, listed, rfl⟩, account, used, rfl⟩ := mentioned
    have inWhole : authorized ∈ job.around instructions :=
      ((ahead.sublist.append_left job.before).append_right job.after).subset listed
    exact unshared authorized inWhole account used
  obtain ⟨chosen, left, split, whole⟩ := (job.draft instructions).exists_choice faithful
  have small : (job.draft instructions).sizeWith (chosen.map (·.table)) ≤ maxTransactionSize :=
    Int.le_trans (Int.le_of_eq whole.symm) fits.size
  refine ⟨?_, keys⟩
  rw [uniqueKeys_estimate pool] at keys
  exact (job.draft front).estimateSize_le_of_choice faithful unshared split keys
    (Int.le_trans (within.sizeWith_le _) small)

/-- A stream that keeps every limit as a whole is packed into one batch exactly when its prefixes are
within the limit of size, and always when no account of it is in two of the tables. -/
theorem pack_single (pool : job.pool = tables.map Candidate.ofTable) (nonempty : instructions ≠ [])
    (size : (job.estimate instructions).size ≤ maxTransactionSize)
    (uniqueKeys : (job.estimate instructions).uniqueKeys ≤ maxUniqueKeys)
    (count : (job.before ++ instructions ++ job.after).length ≤ job.maxInstructions) :
    ((∃ batch, job.pack instructions = .ok [batch]) ↔
      ∀ front, front <+: instructions → (job.estimate front).size ≤ maxTransactionSize) ∧
    ((tables.Pairwise fun first second =>
        ∀ authorized ∈ job.before ++ instructions ++ job.after,
        ∀ account ∈ authorized.instruction.accounts,
          account.key ∈ first.addresses → account.key ∉ second.addresses) →
      job.pack instructions = .ok
        [⟨job.before ++ instructions ++ job.after, (job.estimate instructions).tables⟩]) := by
  constructor
  · rw [pack_eq_single_iff nonempty]
    constructor
    · exact fun fits front ahead => (fits.2 front ahead).size
    · exact fun small => ⟨count, fun front ahead =>
        ⟨small front ahead, Int.le_trans (uniqueKeys_le_of_front pool ahead) uniqueKeys⟩⟩
  · intro apart
    exact pack_of_prefixes nonempty count fun front ahead =>
      Fits.of_prefix pool apart ⟨size, uniqueKeys⟩ ahead

end Tables

/-- A call that writes the accounts with some numbers. -/
def wideningCall (accounts : List Nat) : Authorized Unit :=
  ⟨⟨Key.ofNat 9, accounts.map fun account => ⟨Key.ofNat account, false, true⟩, [1]⟩, []⟩

/-- A table of the accounts with some numbers. -/
def tableOf (key : Nat) (accounts : List Nat) : LookupTable :=
  ⟨Key.ofNat key, accounts.map Key.ofNat⟩

/-- Calls of the accounts of two tables, three of which only the last call names, and of accounts that
are in no table. -/
def halvesStream : List (Authorized Unit) :=
  [wideningCall (List.range' 100 20 ++ List.range' 300 12),
    wideningCall (List.range' 200 20 ++ List.range' 312 15), wideningCall (List.range' 120 3)]

/-- The two tables, one for either half of the accounts. -/
def halves : List LookupTable :=
  [tableOf 20 (List.range' 100 23), tableOf 21 (List.range' 200 20)]

/-- Packing with the two tables and any further ones. -/
def halvesJob (further : List LookupTable) : PackingJob Unit :=
  { payer := Key.ofNat 1
    before := []
    after := []
    pool := (halves ++ further).map Candidate.ofTable
    maxInstructions := 64 }

theorem pack_single_halvesStream :
    ∃ tables, (halvesJob []).pack halvesStream = .ok [⟨halvesStream, tables⟩] := by
  have pool : (halvesJob []).pool = halves.map Candidate.ofTable := rfl
  refine ⟨_, (pack_single pool (List.cons_ne_nil _ _) ?_ ?_ ?_).2 ?_⟩
  · decide +kernel
  · decide +kernel
  · decide +kernel
  · decide +kernel

/-- A third table that overlaps both of them. -/
def bridge : LookupTable := tableOf 22 (List.range' 100 11 ++ List.range' 200 11)

/-- With overlapping tables a stream can fit in one transaction and still be packed into two: the
bridge is the best table for the first two calls, and leaves both halves to be committed as well. -/
theorem pack_halvesStream_ne_single :
    halvesStream ≠ [] ∧ ((halvesJob [bridge]).estimate halvesStream).size ≤ maxTransactionSize ∧
      ((halvesJob [bridge]).estimate halvesStream).uniqueKeys ≤ maxUniqueKeys ∧
      ((halvesJob [bridge]).around halvesStream).length ≤ (halvesJob [bridge]).maxInstructions ∧
      ∀ batch, (halvesJob [bridge]).pack halvesStream ≠ .ok [batch] := by
  have two : ((halvesJob [bridge]).pack halvesStream).map List.length = .ok 2 := by
    decide +kernel
  refine ⟨List.cons_ne_nil _ _, ?_, ?_, ?_, ?_⟩
  · decide +kernel
  · decide +kernel
  · decide +kernel
  · intro batch single
    rw [single] at two
    have lengths : 1 = 2 := Except.ok.inj two
    contradiction

end SolanaTransactions.PackingJob
