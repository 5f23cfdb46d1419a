import Hashgraph.Node.Service
import Hashgraph.Proofs.Holding
import Hashgraph.Proofs.Liveness

/-! Runs of a manager. Whatever a manager goes through, its creator goes through a run of its own: the windows,
clearings and attempts that reach it, and the events that the hold buffer lets pass. -/

namespace Hashgraph

namespace Creator

variable {σ : Type}

theorem creator_history_registrations (creator : Creator) (events : List Event) :
    (creator.history (events.map (Action.register (σ := σ)))).creator = events.foldl register creator := by
  induction events generalizing creator with
  | nil => rfl
  | cons event rest ih => exact ih (creator.register event)

theorem InMode.history {mode : AncientMode} {creator : Creator} (inMode : InMode mode creator)
    (actions : List (Action σ)) (fits : ∀ window, .install window ∈ actions → window.mode = mode) :
    InMode mode (creator.history actions).creator := by
  apply history_induction _ actions (motive := fun chronicle => InMode mode chronicle.creator)
  · exact inMode
  · intro chronicle inMode action member
    exact inMode.next action fun window same => fits window (same ▸ member)

end Creator

namespace Manager

inductive Operation where
  | command (command : Command)
  | submit (transaction : Transaction)
  | attempt (sign : EventHash → Signature) (now : Instant)

namespace Operation

def registered? : Operation → Option Event
  | .command (.register event) => some event
  | _ => none

def window? : Operation → Option EventWindow
  | .command (.setWindow window) => some window
  | _ => none

def submitted? : Operation → Option Transaction
  | .submit transaction => some transaction
  | _ => none

end Operation

def perform (manager : Manager) : Operation → Manager
  | .command command => (manager.handle command).2
  | .submit transaction => manager.submit transaction
  | .attempt sign now => (manager.attempt sign now).2

def after (manager : Manager) (operations : List Operation) : Manager := operations.foldl perform manager

def yields {α : Type} (yield : Manager → Operation → List α) : Manager → List Operation → List α
  | _, [] => []
  | manager, operation :: rest => yield manager operation ++ yields yield (manager.perform operation) rest

theorem after_concat (manager : Manager) (operations : List Operation) (operation : Operation) :
    manager.after (operations ++ [operation]) = (manager.after operations).perform operation := by
  simp [after]

theorem yields_concat {α : Type} (yield : Manager → Operation → List α) (manager : Manager)
    (operations : List Operation) (operation : Operation) :
    manager.yields yield (operations ++ [operation]) =
      manager.yields yield operations ++ yield (manager.after operations) operation := by
  induction operations generalizing manager with
  | nil => simp [yields, after]
  | cons first rest ih => simp [yields, ih, after]

def passes (manager : Manager) : Operation → List Event
  | .command (.register event) => manager.buffer.passed event
  | .command (.setWindow window) => manager.buffer.released window
  | _ => []

def makes (manager : Manager) : Operation → List Event
  | .attempt sign now => ((manager.attempt sign now).1.toOption.join).toList
  | _ => []

/-- What an operation asks of the creator before it passes on events. -/
def directs (manager : Manager) : Operation → List (Creator.Action TransactionPool)
  | .command (.setWindow window) => [.install window]
  | .command .clear => [.clear]
  | .attempt sign now =>
      if (Rule.blockingStatus manager.rules now manager.context).isSome then []
      else [.attempt (manager.surroundings sign) now manager.pool]
  | _ => []

def calls (manager : Manager) (operation : Operation) : List (Creator.Action TransactionPool) :=
  manager.directs operation ++ (manager.passes operation).map .register

def arrival? : Creator.Action TransactionPool → Option Event
  | .register event => some event
  | _ => none

theorem foldl_pass (manager : Manager) (events : List Event) :
    events.foldl pass manager = { manager with creator := events.foldl Creator.register manager.creator } := by
  induction events generalizing manager with
  | nil => rfl
  | cons event rest ih => exact ih (manager.pass event)

theorem passAll_eq (manager : Manager) (outcome : Except Overflow (List Event)) :
    (manager.passAll outcome).2 =
      { manager with creator := (outcome.toOption.getD []).foldl Creator.register manager.creator } := by
  cases outcome with
  | error fault => rfl
  | ok events => exact manager.foldl_pass events

theorem register_eq (manager : Manager) (event : Event) :
    (manager.register event).2 =
      { manager with
        buffer := (manager.buffer.add event).2
        creator := (manager.buffer.passed event).foldl Creator.register manager.creator } := by
  rw [register, passAll_eq, HoldBuffer.passed]
  rcases (manager.buffer.add event).1 with fault | passed
  all_goals rfl

theorem setWindow_eq (manager : Manager) (window : EventWindow) :
    (manager.setWindow window).2 =
      { manager with
        buffer := (manager.buffer.setWindow window).2
        creator := (manager.buffer.released window).foldl Creator.register (manager.creator.setWindow window) } := by
  rw [setWindow, passAll_eq]
  rfl

structure Attempted (manager : Manager) (attempt : Attempt TransactionPool)
    (result : Except CreationError (Option Event) × Manager) : Prop where
  outcome : result.1 = attempt.outcome
  creator : result.2.creator = attempt.creator
  pool : result.2.pool = attempt.supply
  buffer : result.2.buffer = manager.buffer

theorem attemptPermitted_attempted (manager : Manager) (sign : EventHash → Signature) (now : Instant) :
    Attempted manager (manager.creator.attempt (manager.surroundings sign) now manager.pool)
      (manager.attemptPermitted sign now) := by
  change Attempted manager ((manager.enter .attemptingCreation).creator.attempt
    ((manager.enter .attemptingCreation).surroundings sign) now (manager.enter .attemptingCreation).pool) _
  simp only [attemptPermitted]
  split
  all_goals
    rename_i outcome
    exact ⟨outcome.symm, rfl, rfl, rfl⟩

theorem attempt_cases (manager : Manager) (sign : EventHash → Signature) (now : Instant) :
    (∃ status, Rule.blockingStatus manager.rules now manager.context = some status ∧
        manager.attempt sign now = (.ok none, manager.enter status)) ∨
      (Rule.blockingStatus manager.rules now manager.context = none ∧
        Attempted manager (manager.creator.attempt (manager.surroundings sign) now manager.pool)
          (manager.attempt sign now)) := by
  cases blocked : Rule.blockingStatus manager.rules now manager.context with
  | some status => exact Or.inl ⟨status, rfl, by simp [attempt, blocked]⟩
  | none =>
      refine Or.inr ⟨rfl, ?_⟩
      rw [attempt, blocked]
      exact manager.attemptPermitted_attempted sign now

theorem buffer_perform (manager : Manager) (operation : Operation) :
    (manager.perform operation).buffer =
      match operation with
      | .command (.register event) => (manager.buffer.add event).2
      | .command (.setWindow window) => (manager.buffer.setWindow window).2
      | .command .clear => manager.buffer.clear
      | _ => manager.buffer := by
  cases operation with
  | command command =>
      cases command with
      | register event => simp only [perform, handle, register_eq]
      | setWindow window => simp only [perform, handle, setWindow_eq]
      | setPlatformStatus status => rfl
      | setUnhealthy span => rfl
      | clear => rfl
  | submit transaction => rfl
  | attempt sign now =>
      rcases manager.attempt_cases sign now with ⟨status, _, blocked⟩ | ⟨_, attempted⟩
      · simp only [perform, blocked]
        rfl
      · exact attempted.buffer

theorem creator_perform (manager : Manager) (operation : Operation) :
    (manager.perform operation).creator = (manager.creator.history (manager.calls operation)).creator := by
  rw [calls, Creator.creator_history_append, Creator.creator_history_registrations]
  cases operation with
  | command command =>
      cases command with
      | register event =>
          simp only [perform, handle, register_eq]
          rfl
      | setWindow window =>
          simp only [perform, handle, setWindow_eq]
          rfl
      | setPlatformStatus status => rfl
      | setUnhealthy span => rfl
      | clear => rfl
  | submit transaction => rfl
  | attempt sign now =>
      rcases manager.attempt_cases sign now with ⟨status, blocking, blocked⟩ | ⟨permitted, attempted⟩
      · have silent : manager.directs (.attempt sign now) = [] := by simp [directs, blocking]
        simp only [perform, blocked, silent]
        rfl
      · have asked : manager.directs (.attempt sign now) =
            [.attempt (manager.surroundings sign) now manager.pool] := by
          simp [directs, permitted]
        rw [perform, attempted.creator, asked]
        exact (Creator.creator_next_attempt ⟨manager.creator, []⟩ _ _ _).symm

theorem arrivals_of_calls (manager : Manager) (operation : Operation) :
    (manager.calls operation).filterMap arrival? = manager.passes operation := by
  have direct : (manager.directs operation).filterMap arrival? = [] := by
    cases operation with
    | command command => cases command <;> rfl
    | submit transaction => rfl
    | attempt sign now =>
        simp only [directs]
        split <;> rfl
  rw [calls, List.filterMap_append, direct, List.filterMap_map]
  exact List.filterMap_some

theorem creator_after (manager : Manager) (operations : List Operation) :
    (manager.after operations).creator = (manager.creator.history (manager.yields calls operations)).creator := by
  induction operations using List.reverseRecOn with
  | nil => rfl
  | append_singleton operations operation ih =>
      rw [after_concat, creator_perform, yields_concat, Creator.creator_history_append, ih]

theorem arrivals_of_run (manager : Manager) (operations : List Operation) :
    (manager.yields calls operations).filterMap arrival? = manager.yields passes operations := by
  induction operations generalizing manager with
  | nil => rfl
  | cons operation rest ih => rw [yields, yields, List.filterMap_append, arrivals_of_calls, ih]

def loneSeat : Seat := ⟨⟨[⟨⟨0⟩, 1⟩], 1, by decide, by decide, by decide⟩, ⟨0⟩, by decide⟩

end Manager

end Hashgraph
