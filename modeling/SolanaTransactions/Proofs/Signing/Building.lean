/-
Module: SolanaTransactions.Proofs.Signing.Building
Purpose: What building the messages of plans gives, and why it stops.
Main exports: Plan.draft, Plan.of_build_ok, Plan.of_build_error, of_buildMessages_ok,
  of_buildMessages_known, of_buildMessages_error
-/
import SolanaTransactions.Proofs.Client.Run
import SolanaTransactions.Signing.Coordinator

namespace SolanaTransactions

variable {ε : Type} {network : Network ε}

/-- What a plan compiles. -/
def Plan.draft (payer : Key) (plan : Plan ε) : Draft :=
  ⟨payer, plan.instructions.map (·.instruction)⟩

namespace Plan

variable {payer : Key} {plan : Plan ε}

theorem build_eq (network : Network ε) (payer : Key) (plan : Plan ε) :
    plan.build network payer = plan.source.resolve network >>= fun found =>
      match (plan.draft payer).compile plan.tables found.1.hash with
      | .ok message => pure ⟨message, found.1, found.2⟩
      | .error cause => throw (.compile cause) := by
  rfl

/-- What is built is the message over the blockhash that was found. -/
theorem of_build_ok {built : BuiltMessage}
    (yields : (plan.build network payer).Yields (.ok built)) :
    (plan.source.resolve network).Yields (.ok (built.blockhash, built.commitment)) ∧
      (plan.draft payer).compile plan.tables built.blockhash.hash = .ok built.message := by
  rw [build_eq] at yields
  obtain ⟨found, resolved, made⟩ := yields.of_bind_ok
  cases compiled : (plan.draft payer).compile plan.tables found.1.hash with
  | error cause =>
      rw [compiled] at made
      cases made.of_throw
  | ok message =>
      rw [compiled] at made
      cases made.of_pure
      exact ⟨resolved, compiled⟩

/-- A plan is not built when no blockhash is found for it or when it does not compile. -/
theorem of_build_error {fault : Fault}
    (yields : (plan.build network payer).Yields (.error fault)) :
    (plan.source.resolve network).Yields (.error fault) ∨
      ∃ blockhash cause, fault = .compile cause ∧
        (plan.draft payer).compile plan.tables blockhash = .error cause := by
  rw [build_eq] at yields
  rcases yields.of_bind_error with unresolved | ⟨found, _, made⟩
  · exact Or.inl unresolved
  · right
    cases compiled : (plan.draft payer).compile plan.tables found.1.hash with
    | error cause =>
        rw [compiled] at made
        cases made.of_throw
        exact ⟨_, cause, rfl, compiled⟩
    | ok message =>
        rw [compiled] at made
        cases made.of_pure

end Plan

section Messages

variable {payer : Payer ε} {plans : List (Plan ε)}

theorem buildMessages_eq (network : Network ε) (payer : Payer ε) (plans : List (Plan ε)) :
    buildMessages network payer plans =
      Client.gather (plans.map fun plan => plan.build network payer.account) >>= fun built =>
        pure (built, Registration.ofPlans payer plans) := by
  rfl

theorem of_buildMessages_ok {built : List BuiltMessage} {entries : List (Registration ε)}
    (yields : (buildMessages network payer plans).Yields (.ok (built, entries))) :
    List.Forall₂ (fun plan entry =>
      (plan.draft payer.account).compile plan.tables entry.blockhash.hash = .ok entry.message)
      plans built := by
  rw [buildMessages_eq] at yields
  obtain ⟨results, gathered, made⟩ := yields.of_bind_ok
  cases made.of_pure
  have each := gathered.of_gather_ok
  rw [List.forall₂_map_left_iff] at each
  exact each.imp fun _ _ done => (Plan.of_build_ok done).2

theorem of_buildMessages_error {fault : Fault}
    (yields : (buildMessages network payer plans).Yields (.error fault)) :
    ∃ plan ∈ plans, (plan.source.resolve network).Yields (.error fault) ∨
      ∃ blockhash cause, fault = .compile cause ∧
        (plan.draft payer.account).compile plan.tables blockhash = .error cause := by
  rw [buildMessages_eq] at yields
  rcases yields.of_bind_error with stopped | ⟨results, _, made⟩
  · obtain ⟨operation, listed, done⟩ := stopped.of_gather_error
    obtain ⟨plan, member, rfl⟩ := List.mem_map.1 listed
    exact ⟨plan, member, Plan.of_build_error done⟩
  · cases made.of_pure

end Messages

end SolanaTransactions
