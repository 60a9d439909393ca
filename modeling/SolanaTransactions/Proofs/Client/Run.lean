/-
Module: SolanaTransactions.Proofs.Client.Run
Purpose: What an operation of a client does in a state: its outcome and the state that it leaves.
Main exports:
  Client.runFrom, Client.runFrom_bind, Client.Yields, Client.Yields.of_bind_ok,
  Client.Yields.of_bind_error, Client.Yields.of_gather_ok, Client.Yields.of_gather_error
-/
import Mathlib.Data.List.Forall2
import SolanaTransactions.Client

namespace SolanaTransactions.Client

variable {ε α β : Type}

/-- The outcome of an operation in a state, and the state after it. -/
def runFrom (operation : Client ε α) (world : World ε) : Except Fault α × World ε :=
  operation.run.run world

theorem runFrom_pure (value : α) (world : World ε) :
    (pure value : Client ε α).runFrom world = (.ok value, world) := by
  rfl

theorem runFrom_throw (fault : Fault) (world : World ε) :
    (throw fault : Client ε α).runFrom world = (.error fault, world) := by
  rfl

theorem runFrom_ofExcept (outcome : Except Fault α) (world : World ε) :
    (ofExcept outcome : Client ε α).runFrom world = (outcome, world) := by
  rfl

/-- Two operations run one after the other, unless the first one stops. -/
theorem runFrom_bind (operation : Client ε α) (next : α → Client ε β) (world : World ε) :
    (operation >>= next).runFrom world =
      match operation.runFrom world with
      | (.ok value, after) => (next value).runFrom after
      | (.error fault, after) => (.error fault, after) := by
  simp only [runFrom, ExceptT.run_bind, StateT.run_bind]
  cases operation.run.run world with
  | mk outcome after => cases outcome <;> rfl

theorem runFrom_bind_eq_ok {operation : Client ε α} {next : α → Client ε β} {result : β}
    {world after : World ε} :
    (operation >>= next).runFrom world = (.ok result, after) ↔
      ∃ value between, operation.runFrom world = (.ok value, between) ∧
        (next value).runFrom between = (.ok result, after) := by
  rw [runFrom_bind]
  rcases operation.runFrom world with ⟨fault | value, between⟩
  · simp
  · simp

theorem runFrom_bind_pure (operation : Client ε α) (result : α → β) (world : World ε) :
    (operation >>= fun value => pure (result value)).runFrom world =
      ((operation.runFrom world).1.map result, (operation.runFrom world).2) := by
  rw [runFrom_bind]
  rcases operation.runFrom world with ⟨fault | value, after⟩
  · rfl
  · rfl

theorem runFrom_attempt (operation : Client ε α) (world : World ε) :
    operation.attempt.runFrom world =
      (.ok (operation.runFrom world).1, (operation.runFrom world).2) := by
  rfl

theorem of_runFrom_pure {value result : α} {world after : World ε}
    (ran : (pure value : Client ε α).runFrom world = (.ok result, after)) :
    value = result ∧ after = world := by
  obtain ⟨same, rfl⟩ := Prod.mk.inj ran
  exact ⟨Except.ok.inj same, rfl⟩

/-- An operation yields an outcome when some state leads to it. -/
def Yields (operation : Client ε α) (outcome : Except Fault α) : Prop :=
  ∃ world, (operation.runFrom world).1 = outcome

theorem Yields.of_pure {value : α} {outcome : Except Fault α}
    (yields : (pure value : Client ε α).Yields outcome) : outcome = .ok value := by
  obtain ⟨world, ran⟩ := yields
  rw [runFrom_pure] at ran
  exact ran.symm

theorem Yields.of_throw {fault : Fault} {outcome : Except Fault α}
    (yields : (throw fault : Client ε α).Yields outcome) : outcome = .error fault := by
  obtain ⟨world, ran⟩ := yields
  rw [runFrom_throw] at ran
  exact ran.symm

theorem Yields.of_ofExcept {known outcome : Except Fault α}
    (yields : (ofExcept known : Client ε α).Yields outcome) : outcome = known := by
  obtain ⟨world, ran⟩ := yields
  rw [runFrom_ofExcept] at ran
  exact ran.symm

theorem Yields.of_bind_ok {operation : Client ε α} {next : α → Client ε β} {result : β}
    (yields : (operation >>= next).Yields (.ok result)) :
    ∃ value, operation.Yields (.ok value) ∧ (next value).Yields (.ok result) := by
  obtain ⟨world, ran⟩ := yields
  rw [runFrom_bind] at ran
  cases first : operation.runFrom world with
  | mk outcome after =>
      rw [first] at ran
      cases outcome with
      | error fault => contradiction
      | ok value => exact ⟨value, ⟨world, congrArg Prod.fst first⟩, after, ran⟩

theorem Yields.of_bind_error {operation : Client ε α} {next : α → Client ε β} {fault : Fault}
    (yields : (operation >>= next).Yields (.error fault)) :
    operation.Yields (.error fault) ∨
      ∃ value, operation.Yields (.ok value) ∧ (next value).Yields (.error fault) := by
  obtain ⟨world, ran⟩ := yields
  rw [runFrom_bind] at ran
  cases first : operation.runFrom world with
  | mk outcome after =>
      rw [first] at ran
      cases outcome with
      | error other =>
          obtain rfl := Except.error.inj ran
          exact Or.inl ⟨world, congrArg Prod.fst first⟩
      | ok value => exact Or.inr ⟨value, ⟨world, congrArg Prod.fst first⟩, after, ran⟩

theorem Yields.of_ask {reply : ε → Except Fault α × ε} {outcome : Except Fault α}
    (yields : (ask reply).Yields outcome) : ∃ environment, (reply environment).1 = outcome := by
  obtain ⟨world, ran⟩ := yields
  exact ⟨world.environment, ran⟩

/-- What every step keeps that comes to an end holds of the result of all steps. -/
theorem Yields.foldlM_invariant {motive : β → Prop} {step : β → α → Client ε β}
    {elements : List α} {start final : β}
    (keeps : ∀ element ∈ elements, ∀ current next, motive current →
      (step current element).Yields (.ok next) → motive next)
    (good : motive start) (yields : (elements.foldlM step start).Yields (.ok final)) :
    motive final := by
  induction elements generalizing start with
  | nil =>
      cases yields.of_pure
      exact good
  | cons first rest ih =>
      rw [List.foldlM_cons] at yields
      obtain ⟨next, stepped, later⟩ := yields.of_bind_ok
      refine ih ?_ (keeps first List.mem_cons_self start next good stepped) later
      intro element member
      exact keeps element (List.mem_cons_of_mem first member)

/-- Every operation of a list is run, whatever the outcomes of the ones before it. -/
theorem runFrom_attemptAll (operations : List (Client ε α)) (world : World ε) :
    ∃ outcomes after, (attemptAll operations).runFrom world = (.ok outcomes, after) ∧
      List.Forall₂ Yields operations outcomes := by
  induction operations generalizing world with
  | nil => exact ⟨[], world, rfl, .nil⟩
  | cons operation rest ih =>
      obtain ⟨outcomes, after, ran, yields⟩ := ih (operation.runFrom world).2
      refine ⟨(operation.runFrom world).1 :: outcomes, after, ?_, .cons ⟨world, rfl⟩ yields⟩
      rw [attemptAll, runFrom_bind, runFrom_attempt]
      dsimp only
      rw [runFrom_bind, ran]
      rfl

theorem allOk_eq_ok {outcomes : List (Except Fault α)} {results : List α}
    (all : allOk outcomes = .ok results) : outcomes = results.map .ok := by
  induction outcomes generalizing results with
  | nil =>
      rw [allOk, Except.ok.injEq] at all
      rw [← all]
      rfl
  | cons outcome rest ih =>
      cases outcome with
      | error fault => contradiction
      | ok result =>
          rw [allOk] at all
          cases later : allOk rest with
          | error fault =>
              rw [later] at all
              contradiction
          | ok others =>
              rw [later, Except.map, Except.ok.injEq] at all
              rw [← all, List.map_cons, ih later]

theorem allOk_map_ok (results : List α) : allOk (results.map .ok) = .ok results := by
  induction results with
  | nil => rfl
  | cons first rest ih =>
      rw [List.map_cons, allOk, ih]
      rfl

theorem mem_of_allOk_eq_error {outcomes : List (Except Fault α)} {fault : Fault}
    (stopped : allOk outcomes = .error fault) : .error fault ∈ outcomes := by
  induction outcomes with
  | nil => contradiction
  | cons outcome rest ih =>
      cases outcome with
      | error first =>
          rw [allOk, Except.error.injEq] at stopped
          exact stopped ▸ List.mem_cons_self
      | ok result =>
          rw [allOk] at stopped
          cases later : allOk rest with
          | error other =>
              rw [later, Except.map, Except.error.injEq] at stopped
              exact List.mem_cons_of_mem _ (ih (later.trans (congrArg _ stopped)))
          | ok others =>
              rw [later] at stopped
              contradiction

theorem gather_pure (values : List α) :
    gather (values.map fun value => (pure value : Client ε α)) = pure values := by
  have outcomes : attemptAll (values.map fun value => (pure value : Client ε α)) =
      pure (values.map Except.ok) := by
    induction values with
    | nil => rfl
    | cons first others ih =>
        rw [List.map_cons, attemptAll, ih]
        rfl
  rw [gather, outcomes, pure_bind, allOk_map_ok]
  rfl

/-- A gathering is the outcome of all its operations together. -/
theorem Yields.of_gather {operations : List (Client ε α)} {outcome : Except Fault (List α)}
    (yields : (gather operations).Yields outcome) :
    ∃ outcomes, outcome = allOk outcomes ∧ List.Forall₂ Yields operations outcomes := by
  obtain ⟨world, rfl⟩ := yields
  obtain ⟨outcomes, after, ran, each⟩ := runFrom_attemptAll operations world
  refine ⟨outcomes, ?_, each⟩
  rw [gather, runFrom_bind, ran]
  rfl

theorem Yields.of_gather_ok {operations : List (Client ε α)} {results : List α}
    (yields : (gather operations).Yields (.ok results)) :
    List.Forall₂ (fun operation result => operation.Yields (.ok result)) operations results := by
  obtain ⟨outcomes, all, each⟩ := yields.of_gather
  rw [allOk_eq_ok all.symm, List.forall₂_map_right_iff] at each
  exact each

theorem exists_yields_of_mem {operations : List (Client ε α)} {outcomes : List (Except Fault α)}
    {outcome : Except Fault α} (yields : List.Forall₂ Yields operations outcomes)
    (member : outcome ∈ outcomes) : ∃ operation ∈ operations, operation.Yields outcome := by
  induction yields with
  | nil => contradiction
  | cons first _ ih =>
      rcases List.mem_cons.1 member with rfl | inRest
      · exact ⟨_, List.mem_cons_self, first⟩
      · obtain ⟨operation, inOperations, later⟩ := ih inRest
        exact ⟨operation, List.mem_cons_of_mem _ inOperations, later⟩

/-- A gathering stops only with a fault of one of its operations. -/
theorem Yields.of_gather_error {operations : List (Client ε α)} {fault : Fault}
    (yields : (gather operations).Yields (.error fault)) :
    ∃ operation ∈ operations, operation.Yields (.error fault) := by
  obtain ⟨outcomes, stopped, each⟩ := yields.of_gather
  exact exists_yields_of_mem each (mem_of_allOk_eq_error stopped.symm)

end SolanaTransactions.Client
