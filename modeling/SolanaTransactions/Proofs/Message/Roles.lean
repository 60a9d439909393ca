/-
Module: SolanaTransactions.Proofs.Message.Roles
Purpose: The order of the stored keys loses no key, and its header counts are counts of roles.
Main exports:
  Draft.storedOrder_perm, Draft.count_signers, Draft.compileBody_eq_ok, Draft.exists_compileBody
-/
import Mathlib.Data.List.Basic
import SolanaTransactions.Message.Compile

namespace SolanaTransactions.Draft

variable {draft : Draft} {stored : List Key}

@[simp] theorem writes_payer (draft : Draft) : draft.writes draft.payer = true := by
  simp [writes]

@[simp] theorem signs_payer (draft : Draft) : draft.signs draft.payer = true := by
  simp [signs]

/-- One role is what two tests leave of the stored keys other than the payer. -/
theorem withRole_eq_filter (draft : Draft) (stored : List Key) (signer writable : Bool) :
    draft.withRole stored signer writable =
      ((stored.filter (· != draft.payer)).filter (draft.signs · == signer)).filter
        (draft.writes · == writable) := by
  rw [withRole, List.filter_filter, List.filter_filter]
  apply List.filter_congr
  intro key _
  cases key != draft.payer <;> cases draft.signs key == signer <;>
    cases draft.writes key == writable <;> rfl

/-- A Boolean test splits a list into the elements with either answer. -/
theorem filter_true_append_filter_false_perm (test : Key → Bool) (keys : List Key) :
    (keys.filter (test · == true) ++ keys.filter (test · == false)).Perm keys := by
  have negated : (fun key => test key == false) = fun key => !(test key == true) := by
    funext key
    cases test key <;> rfl
  rw [negated]
  exact List.filter_append_perm (fun key => test key == true) keys

/-- The stored keys of a message are the keys to be stored: the four roles lose and repeat none. -/
theorem storedOrder_perm (nodup : stored.Nodup) (member : draft.payer ∈ stored) :
    (draft.storedOrder stored).Perm stored := by
  -- The keys other than the payer are split twice: by signing, and each part by writing.
  have writers (signer : Bool) :
      (draft.withRole stored signer true ++ draft.withRole stored signer false).Perm
        ((stored.filter (· != draft.payer)).filter (draft.signs · == signer)) := by
    rw [withRole_eq_filter, withRole_eq_filter]
    exact filter_true_append_filter_false_perm draft.writes _
  have others : (draft.withRole stored true true ++ draft.withRole stored true false ++
      (draft.withRole stored false true ++ draft.withRole stored false false)).Perm
        (stored.erase draft.payer) := by
    rw [nodup.erase_eq_filter]
    exact ((writers true).append (writers false)).trans
      (filter_true_append_filter_false_perm draft.signs _)
  have whole := (others.cons draft.payer).trans (List.perm_cons_erase member).symm
  simpa only [storedOrder, List.cons_append, List.append_assoc] using whole

theorem signs_of_mem_withRole {signer writable : Bool} {key : Key}
    (member : key ∈ draft.withRole stored signer writable) : draft.signs key = signer := by
  simp only [withRole, List.mem_filter, Bool.and_eq_true, beq_iff_eq] at member
  exact member.2.1.2

theorem writes_of_mem_withRole {signer writable : Bool} {key : Key}
    (member : key ∈ draft.withRole stored signer writable) : draft.writes key = writable := by
  simp only [withRole, List.mem_filter, Bool.and_eq_true, beq_iff_eq] at member
  exact member.2.2

theorem countP_withRole_true (draft : Draft) (stored : List Key) (writable : Bool) :
    (draft.withRole stored true writable).countP draft.signs =
      (draft.withRole stored true writable).length :=
  List.countP_eq_length.2 fun _ => signs_of_mem_withRole

theorem countP_withRole_false (draft : Draft) (stored : List Key) (writable : Bool) :
    (draft.withRole stored false writable).countP draft.signs = 0 := by
  apply List.countP_eq_zero.2
  intro key member
  simp [signs_of_mem_withRole member]

/-- The number of signatures in a header is the number of stored keys that sign. -/
theorem count_signers (nodup : stored.Nodup) (member : draft.payer ∈ stored) :
    1 + (draft.withRole stored true true).length + (draft.withRole stored true false).length =
      (stored.filter draft.signs).length := by
  rw [← List.countP_eq_length_filter, ← (storedOrder_perm nodup member).countP_eq, storedOrder]
  simp only [List.cons_append, List.countP_cons, List.countP_append, signs_payer, if_true,
    countP_withRole_true, countP_withRole_false]
  omega

/-- What a compiled body says about the keys that it was compiled from. -/
theorem compileBody_eq_ok {blockhash : Blockhash} {loaded : List Key} {body : MessageBody}
    (nodup : stored.Nodup) (member : draft.payer ∈ stored)
    (compiled : draft.compileBody blockhash stored loaded = .ok body) :
    body.keys = draft.storedOrder stored ∧
      body.header.requiredSignatures.toNat = (stored.filter draft.signs).length ∧
      body.instructions =
        draft.instructions.map (compileInstruction (draft.storedOrder stored ++ loaded)) ∧
      body.keys.length + loaded.length ≤ 256 := by
  simp only [compileBody] at compiled
  split at compiled
  · simp at compiled
  · next within =>
      simp only [not_or, Nat.not_lt] at within
      obtain ⟨signers, _, total⟩ := within
      obtain rfl := Except.ok.inj compiled
      refine ⟨rfl, ?_, rfl, total⟩
      rw [← count_signers nodup member]
      exact UInt8.toNat_ofNat_of_lt' (Nat.lt_succ_of_le signers)

/-- The counts of a compiled header are the lengths of the groups that the stored keys stand in. -/
theorem header_of_compileBody {blockhash : Blockhash} {loaded : List Key} {body : MessageBody}
    (compiled : draft.compileBody blockhash stored loaded = .ok body) :
    body.header.requiredSignatures.toNat =
        1 + (draft.withRole stored true true).length + (draft.withRole stored true false).length ∧
      body.header.readonlySigned.toNat = (draft.withRole stored true false).length ∧
      body.header.readonlyUnsigned.toNat = (draft.withRole stored false false).length ∧
      body.blockhash = blockhash := by
  simp only [compileBody] at compiled
  split at compiled
  · simp at compiled
  · next within =>
      simp only [not_or, Nat.not_lt] at within
      obtain ⟨signers, readonlyOthers, _⟩ := within
      obtain rfl := Except.ok.inj compiled
      exact ⟨UInt8.toNat_ofNat_of_lt' (Nat.lt_succ_of_le signers),
        UInt8.toNat_ofNat_of_lt' (Nat.lt_succ_of_le (by omega)),
        UInt8.toNat_ofNat_of_lt' (Nat.lt_succ_of_le readonlyOthers), rfl⟩

/-- A body compiles when its accounts are few enough to be numbered in a byte. -/
theorem exists_compileBody (blockhash : Blockhash) {loaded : List Key}
    (nodup : stored.Nodup) (member : draft.payer ∈ stored)
    (few : stored.length + loaded.length ≤ 255) :
    ∃ body, draft.compileBody blockhash stored loaded = .ok body := by
  have order := (storedOrder_perm nodup member).length_eq
  have readonly := order
  simp only [storedOrder, List.cons_append, List.length_cons, List.length_append] at readonly
  simp only [compileBody]
  rw [if_neg]
  · exact ⟨_, rfl⟩
  · omega

end SolanaTransactions.Draft
