/-
Module: SolanaTransactions.Proofs.Client.Moves
Purpose: What an operation may do to the state, whatever its outcome.
Main exports:
  Client.Moves, Client.Moves.bind, Client.Moves.gather, Event.Quiet, World.ExtendsBy,
  Client.Moves.latestBlockhash
-/
import Mathlib.Order.Defs.Unbundled
import SolanaTransactions.Proofs.Client.Run

namespace SolanaTransactions

variable {ε : Type}

namespace Client

variable {α β : Type} {relation : World ε → World ε → Prop}

/-- Every run of an operation leads from a state to a related one, also when it stops. -/
def Moves (relation : World ε → World ε → Prop) (operation : Client ε α) : Prop :=
  ∀ world, relation world (operation.runFrom world).2

namespace Moves

theorem mono {other : World ε → World ε → Prop} {operation : Client ε α}
    (moves : operation.Moves relation)
    (weaker : ∀ before after, relation before after → other before after) :
    operation.Moves other :=
  fun world => weaker _ _ (moves world)

theorem leads {operation : Client ε α} {outcome : Except Fault α} {world after : World ε}
    (moves : operation.Moves relation) (ran : operation.runFrom world = (outcome, after)) :
    relation world after := by
  have moved := moves world
  rw [ran] at moved
  exact moved

variable [IsPreorder (World ε) relation]

theorem pure (value : α) : Moves relation (pure value : Client ε α) :=
  fun world => refl world

theorem throw (fault : Fault) : Moves relation (throw fault : Client ε α) :=
  fun world => refl world

theorem ofExcept (outcome : Except Fault α) : Moves relation (ofExcept outcome : Client ε α) :=
  fun world => refl world

omit [IsPreorder (World ε) relation] in
theorem attempt {operation : Client ε α} (moves : operation.Moves relation) :
    operation.attempt.Moves relation :=
  fun world => moves world

theorem bind {operation : Client ε α} {next : α → Client ε β} (first : operation.Moves relation)
    (later : ∀ value, (next value).Moves relation) : (operation >>= next).Moves relation := by
  intro world
  rw [runFrom_bind]
  have moved := first world
  cases ran : operation.runFrom world with
  | mk outcome after =>
      rw [ran] at moved
      cases outcome with
      | error fault => exact moved
      | ok value => exact IsTrans.trans _ _ _ moved (later value after)

theorem attemptAll {operations : List (Client ε α)}
    (each : ∀ operation ∈ operations, operation.Moves relation) :
    (attemptAll operations).Moves relation := by
  induction operations with
  | nil => exact .pure _
  | cons operation rest ih =>
      obtain ⟨first, later⟩ := List.forall_mem_cons.1 each
      rw [Client.attemptAll]
      exact .bind first.attempt fun _ => .bind (ih later) fun _ => .pure _

theorem gather {operations : List (Client ε α)}
    (each : ∀ operation ∈ operations, operation.Moves relation) :
    (gather operations).Moves relation :=
  .bind (.attemptAll each) fun _ => .ofExcept _

theorem foldlM {step : β → α → Client ε β} {elements : List α} {start : β}
    (each : ∀ element ∈ elements, ∀ current, (step current element).Moves relation) :
    (elements.foldlM step start).Moves relation := by
  induction elements generalizing start with
  | nil => exact .pure _
  | cons first rest ih =>
      obtain ⟨here, later⟩ := List.forall_mem_cons.1 each
      rw [List.foldlM_cons]
      exact .bind (here start) fun _ => ih later

theorem mapM {step : α → Client ε β} {elements : List α}
    (each : ∀ element ∈ elements, (step element).Moves relation) :
    (elements.mapM step).Moves relation := by
  induction elements with
  | nil => exact .pure _
  | cons first rest ih =>
      obtain ⟨here, later⟩ := List.forall_mem_cons.1 each
      rw [List.mapM_cons]
      exact .bind here fun _ => .bind (ih later) fun _ => .pure _

end Moves

end Client

/-! ### Nothing but events -/

/-- An event is not that something is sent. -/
def Event.Quiet (event : Event) : Prop := ∀ raw options, event ≠ .sent raw options

/-- Nothing has changed but the environment, and the trace by events of some kind that take no
time. -/
def World.ExtendsBy (kind : Event → Prop) (before after : World ε) : Prop :=
  ∃ environment entries,
    after = { before with environment := environment, trace := before.trace ++ entries } ∧
      ∀ entry ∈ entries, entry.time = before.now ∧ kind entry.event

instance (kind : Event → Prop) : IsPreorder (World ε) (World.ExtendsBy kind) where
  refl world := ⟨world.environment, [], by rw [List.append_nil], fun _ none => nomatch none⟩
  trans := by
    rintro before _ _ ⟨_, early, rfl, earlyKind⟩ ⟨environment, late, rfl, lateKind⟩
    refine ⟨environment, early ++ late, by rw [List.append_assoc], fun entry member => ?_⟩
    exact (List.mem_append.1 member).elim (earlyKind entry) (lateKind entry)

theorem World.ExtendsBy.mono {kind other : Event → Prop} {before after : World ε}
    (grown : ExtendsBy kind before after) (weaker : ∀ event, kind event → other event) :
    ExtendsBy other before after := by
  obtain ⟨environment, entries, same, kinds⟩ := grown
  exact ⟨environment, entries, same, fun entry member => (kinds entry member).imp_right (weaker _)⟩

theorem World.ExtendsBy.flights_eq {kind : Event → Prop} {before after : World ε}
    (grown : ExtendsBy kind before after) : after.flights = before.flights := by
  obtain ⟨_, _, rfl, _⟩ := grown
  rfl

theorem World.ExtendsBy.nextNumber_eq {kind : Event → Prop} {before after : World ε}
    (grown : ExtendsBy kind before after) : after.nextNumber = before.nextNumber := by
  obtain ⟨_, _, rfl, _⟩ := grown
  rfl

namespace Client.Moves

variable {α : Type} {kind : Event → Prop}

theorem record {event : Event} (allowed : kind event) :
    (record event : Client ε Unit).Moves (World.ExtendsBy kind) := by
  intro world
  refine ⟨world.environment, [⟨world.now, event⟩], rfl, fun entry member => ?_⟩
  rw [List.mem_singleton.1 member]
  exact ⟨rfl, allowed⟩

theorem ask (reply : ε → Except Fault α × ε) : (ask reply).Moves (World.ExtendsBy kind) :=
  fun world => ⟨_, [], by rw [List.append_nil]; rfl, fun _ none => nomatch none⟩

theorem connectionCommitment (network : Network ε) :
    (connectionCommitment network).Moves (World.ExtendsBy kind) :=
  fun world => refl world

theorem latestBlockhash {commitment : Option Commitment} (network : Network ε)
    (allowed : kind (.blockhashAsked commitment)) :
    (latestBlockhash network commitment).Moves (World.ExtendsBy kind) :=
  .bind (.record allowed) fun _ => .ask _

theorem slot {commitment : Option Commitment} (network : Network ε)
    (allowed : ∀ reply, kind (.slotAsked commitment reply)) :
    (slot network commitment).Moves (World.ExtendsBy kind) :=
  .bind (.attempt (.ask _)) fun reply => .bind (.record (allowed reply)) fun _ => .ofExcept _

end Client.Moves

end SolanaTransactions
