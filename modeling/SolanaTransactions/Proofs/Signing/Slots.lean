/-
Module: SolanaTransactions.Proofs.Signing.Slots
Purpose: What a passed check says about the slots of a transaction, and what it leaves open.
Main exports:
  Transaction.checkFrom_eq_ok_iff, Transaction.SlotsSigned, Transaction.FullySigned,
  Transaction.checkSigned_eq_ok_iff, Transaction.SlotsSigned.fullySigned_iff,
  Transaction.checkFrom_eq_error, checkAllSigned_eq_ok_iff, checkAllSigned_eq_error
-/
import SolanaTransactions.Proofs.Traversal
import SolanaTransactions.Signing.Coordinator

namespace SolanaTransactions

/-!
The check walks the slots that a transaction has.  It finds a key for each of
them and looks at its signature, but it does not ask how many slots there should
be.  A passed check therefore says that a transaction is fully signed as far as
its slots go, and fully signed exactly when they go far enough.
-/

namespace Transaction

variable {keys : List Key} {judge : Nat → Key → Signature → Option Fault}

/-- A slot has a key, and nothing is wrong with it. -/
def SlotPasses (keys : List Key) (judge : Nat → Key → Signature → Option Fault) (position : Nat)
    (signature : Signature) : Prop :=
  ∃ key, keys[position]? = some key ∧ judge position key signature = none

theorem checkFrom_cons_eq_ok_iff {position : Nat} {signature : Signature}
    {rest : List Signature} :
    checkFrom keys judge position (signature :: rest) = .ok () ↔
      SlotPasses keys judge position signature ∧
        checkFrom keys judge (position + 1) rest = .ok () := by
  rw [checkFrom, SlotPasses]
  cases keys[position]? with
  | none => simp
  | some key =>
      cases found : judge position key signature with
      | none => simp [found]
      | some fault => simp [found]

/-- A check passes when every slot passes. -/
theorem checkFrom_eq_ok_iff {start : Nat} {signatures : List Signature} :
    checkFrom keys judge start signatures = .ok () ↔
      ∀ offset signature, signatures[offset]? = some signature →
        SlotPasses keys judge (start + offset) signature := by
  induction signatures generalizing start with
  | nil => simp [checkFrom]
  | cons first rest ih =>
      rw [checkFrom_cons_eq_ok_iff, ih]
      constructor
      · rintro ⟨passes, later⟩ offset signature present
        cases offset with
        | zero =>
            rw [List.getElem?_cons_zero, Option.some.injEq] at present
            exact present ▸ passes
        | succ offset =>
            rw [List.getElem?_cons_succ] at present
            rw [← Nat.succ_add_eq_add_succ]
            exact later offset signature present
      · intro every
        constructor
        · exact every 0 first List.getElem?_cons_zero
        · intro offset signature present
          rw [Nat.succ_add_eq_add_succ]
          exact every (offset + 1) signature (List.getElem?_cons_succ.trans present)

/-- A check stops at the first slot with which something is wrong. -/
theorem checkFrom_eq_error {start : Nat} {before after : List Signature} {signature : Signature}
    {key : Key} {fault : Fault}
    (passes : ∀ offset signature, before[offset]? = some signature →
      SlotPasses keys judge (start + offset) signature)
    (held : keys[start + before.length]? = some key)
    (wrong : judge (start + before.length) key signature = some fault) :
    checkFrom keys judge start (before ++ signature :: after) = .error fault := by
  induction before generalizing start with
  | nil =>
      rw [List.length_nil, Nat.add_zero] at held wrong
      rw [List.nil_append, checkFrom, held]
      dsimp only
      rw [wrong]
  | cons first rest ih =>
      obtain ⟨other, heldFirst, fine⟩ := passes 0 first List.getElem?_cons_zero
      rw [Nat.add_zero] at heldFirst fine
      rw [List.length_cons, Nat.add_comm rest.length, ← Nat.add_assoc] at held wrong
      rw [List.cons_append, checkFrom, heldFirst]
      dsimp only
      rw [fine]
      refine ih (fun offset signature present => ?_) held wrong
      rw [Nat.succ_add_eq_add_succ]
      exact passes (offset + 1) signature (List.getElem?_cons_succ.trans present)

variable {scheme : SignatureScheme} {transaction : Transaction}

/-- Every slot that there is has a key and a signature, which verifies when the transaction is
versioned. -/
def SlotsSigned (scheme : SignatureScheme) (transaction : Transaction) : Prop :=
  ∀ (position : Nat) (signature : Signature),
    transaction.signatures[position]? = some signature →
    ∃ key, transaction.keys[position]? = some key ∧ signature ≠ Signature.blank ∧
      (transaction.isVersioned = true →
        scheme.verifies key transaction.message.toBytes signature = true)

/-- Every signer of the message has a slot with a signature that verifies. -/
def FullySigned (scheme : SignatureScheme) (transaction : Transaction) : Prop :=
  ∀ position, position < transaction.message.requiredSignatures →
    ∃ key signature, transaction.keys[position]? = some key ∧
      transaction.signatures[position]? = some signature ∧ signature ≠ Signature.blank ∧
      scheme.verifies key transaction.message.toBytes signature = true

theorem checkSigned_eq_ok_iff {index : Nat} :
    transaction.checkSigned scheme index = .ok () ↔ transaction.SlotsSigned scheme := by
  rw [checkSigned, checkSlots, checkFrom_eq_ok_iff, SlotsSigned]
  refine forall₂_congr fun position signature => imp_congr_right fun _ => ?_
  rw [Nat.zero_add, SlotPasses]
  refine exists_congr fun key => and_congr_right fun _ => ?_
  by_cases blank : signature = Signature.blank
  · simp [blank]
  · cases versioned : transaction.isVersioned <;> simp [blank]

/-- A checked transaction is fully signed exactly when it has as many slots as its message has
signers. -/
theorem SlotsSigned.fullySigned_iff (signed : transaction.SlotsSigned scheme)
    (versioned : transaction.isVersioned = true) :
    transaction.FullySigned scheme ↔
      transaction.message.requiredSignatures ≤ transaction.signatures.length := by
  constructor
  · intro fully
    by_contra short
    -- The first slot that is missing belongs to a signer.
    obtain ⟨_, _, _, present, _⟩ := fully transaction.signatures.length (Nat.lt_of_not_le short)
    rw [List.getElem?_eq_none (Nat.le_refl _)] at present
    contradiction
  · intro enough position required
    have present := List.getElem?_eq_getElem (Nat.lt_of_lt_of_le required enough)
    obtain ⟨key, held, filled, verifies⟩ := signed position _ present
    exact ⟨key, _, held, present, filled, verifies versioned⟩

end Transaction

theorem checkAllSigned_eq_ok_iff {scheme : SignatureScheme} {index : Nat}
    {prepared : List Prepared} :
    checkAllSigned scheme index prepared = .ok () ↔
      ∀ entry ∈ prepared, entry.transaction.SlotsSigned scheme := by
  induction prepared generalizing index with
  | nil => simp [checkAllSigned]
  | cons first rest ih =>
      rw [checkAllSigned, bind_eq_ok_iff, List.forall_mem_cons]
      constructor
      · rintro ⟨_, passed, later⟩
        exact ⟨Transaction.checkSigned_eq_ok_iff.1 passed, ih.1 later⟩
      · rintro ⟨passed, later⟩
        exact ⟨(), Transaction.checkSigned_eq_ok_iff.2 passed, ih.2 later⟩

/-- Checking many transactions stops at the first one that is not signed. -/
theorem checkAllSigned_eq_error {scheme : SignatureScheme} {index : Nat}
    {before after : List Prepared} {entry : Prepared} {fault : Fault}
    (passes : ∀ entry ∈ before, entry.transaction.SlotsSigned scheme)
    (wrong : entry.transaction.checkSigned scheme (index + before.length) = .error fault) :
    checkAllSigned scheme index (before ++ entry :: after) = .error fault := by
  induction before generalizing index with
  | nil =>
      rw [List.length_nil, Nat.add_zero] at wrong
      rw [List.nil_append, checkAllSigned, wrong]
      rfl
  | cons first rest ih =>
      obtain ⟨passesFirst, passesRest⟩ := List.forall_mem_cons.1 passes
      rw [List.length_cons, Nat.add_comm rest.length, ← Nat.add_assoc] at wrong
      rw [List.cons_append, checkAllSigned, Transaction.checkSigned_eq_ok_iff.2 passesFirst]
      exact ih passesRest wrong

end SolanaTransactions
