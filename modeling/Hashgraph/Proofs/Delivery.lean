import Hashgraph.Proofs.Holding
import Hashgraph.Proofs.ManagerRun

/-! What a manager passes on to its creator: every event at most once, as soon as a window lets it through, and
parents in front of their children. -/

namespace Hashgraph

namespace Manager

open ChildlessEvents (ParentsFirst)
open HoldBuffer (Conveyed RoundsRise)

def Operation.Regular : Operation → Prop
  | .command .clear => False
  | .command (.setWindow window) => window.latestConsensusRound.toNat ≤ 2 ^ 64 - 3
  | _ => True

def windowBehind (mode : AncientMode) (operations : List Operation) : EventWindow :=
  (operations.filterMap Operation.window?).getLast?.getD (.genesis mode)

/-- The event came before its round, not ancient, and no window has reached that round since. -/
def Waits (mode : AncientMode) (operations : List Operation) (event : Event) : Prop :=
  ∃ before operation since, operations = before ++ operation :: since ∧ operation.registered? = some event ∧
    (windowBehind mode before).isAncient event.descriptor = false ∧
    (windowBehind mode before).pendingRound < event.birthRound.toNat ∧
    ∀ window ∈ since.filterMap Operation.window?, window.pendingRound < event.birthRound.toNat

/-- The operation brings the event and the window in force lets it through, or it installs the first window that
reaches the round of a waiting event, and the event is not ancient under it. -/
def Due (mode : AncientMode) (before : List Operation) (event : Event) (operation : Operation) : Prop :=
  (operation.registered? = some event ∧ (windowBehind mode before).isAncient event.descriptor = false ∧
      event.birthRound.toNat ≤ (windowBehind mode before).pendingRound) ∨
    ∃ window, operation.window? = some window ∧ Waits mode before event ∧
      event.birthRound.toNat ≤ window.pendingRound ∧ window.isAncient event.descriptor = false

theorem perform_cases (manager : Manager) {operation : Operation} (regular : operation.Regular) :
    (∃ event, operation.registered? = some event ∧ operation.window? = none ∧
        manager.passes operation = manager.buffer.passed event ∧
        (manager.perform operation).buffer = (manager.buffer.add event).2) ∨
      (∃ window, operation.registered? = none ∧ operation.window? = some window ∧
        window.latestConsensusRound.toNat ≤ 2 ^ 64 - 3 ∧
        manager.passes operation = manager.buffer.released window ∧
        (manager.perform operation).buffer = (manager.buffer.setWindow window).2) ∨
      (operation.registered? = none ∧ operation.window? = none ∧ manager.passes operation = [] ∧
        (manager.perform operation).buffer = manager.buffer) := by
  rw [buffer_perform]
  cases operation with
  | command command =>
      cases command with
      | register event => exact Or.inl ⟨event, rfl, rfl, rfl, rfl⟩
      | setWindow window => exact Or.inr (Or.inl ⟨window, rfl, rfl, regular, rfl, rfl⟩)
      | setPlatformStatus status => exact Or.inr (Or.inr ⟨rfl, rfl, rfl, rfl⟩)
      | setUnhealthy span => exact Or.inr (Or.inr ⟨rfl, rfl, rfl, rfl⟩)
      | clear => exact regular.elim
  | submit transaction => exact Or.inr (Or.inr ⟨rfl, rfl, rfl, rfl⟩)
  | attempt sign now => exact Or.inr (Or.inr ⟨rfl, rfl, rfl, rfl⟩)

theorem windowBehind_concat (mode : AncientMode) (operations : List Operation) (operation : Operation) :
    windowBehind mode (operations ++ [operation]) =
      operation.window?.getD (windowBehind mode operations) := by
  rw [windowBehind, List.filterMap_append, List.getLast?_append]
  cases installed : operation.window? <;> simp [windowBehind, installed]

theorem waits_concat {mode : AncientMode} {operations : List Operation} {operation : Operation} {event : Event} :
    Waits mode (operations ++ [operation]) event ↔
      (operation.registered? = some event ∧ (windowBehind mode operations).isAncient event.descriptor = false ∧
          (windowBehind mode operations).pendingRound < event.birthRound.toNat) ∨
        (Waits mode operations event ∧
          ∀ window, operation.window? = some window → window.pendingRound < event.birthRound.toNat) := by
  constructor
  · rintro ⟨before, arrival, since, parts, arrived, young, early, unreached⟩
    rcases since.eq_nil_or_concat' with rfl | ⟨since, last, rfl⟩
    · obtain ⟨rfl, same⟩ := List.append_inj' parts rfl
      cases same
      exact Or.inl ⟨arrived, young, early⟩
    · rw [← List.cons_append, ← List.append_assoc] at parts
      obtain ⟨rfl, same⟩ := List.append_inj' parts rfl
      cases same
      rw [List.filterMap_append, List.forall_mem_append] at unreached
      refine Or.inr ⟨⟨before, arrival, since, rfl, arrived, young, early, unreached.1⟩, ?_⟩
      intro window installed
      exact unreached.2 window (by simp [installed])
  · rintro (⟨arrived, young, early⟩ | ⟨⟨before, arrival, since, rfl, arrived, young, early, unreached⟩, later⟩)
    · exact ⟨operations, operation, [], rfl, arrived, young, early, by simp⟩
    · refine ⟨before, arrival, since ++ [operation], by simp, arrived, young, early, ?_⟩
      rw [List.filterMap_append, List.forall_mem_append]
      refine ⟨unreached, ?_⟩
      intro window listed
      exact later window (by simpa using listed)

structure Tracks (mode : AncientMode) (operations : List Operation) (buffer : HoldBuffer) : Prop where
  window : buffer.window = windowBehind mode operations
  held : ∀ event, event ∈ buffer.held ↔ Waits mode operations event
  low : buffer.window.pendingRound < UInt64.size

theorem Tracks.nothing (mode : AncientMode) : Tracks mode [] (.start mode) where
  window := rfl
  held := by simp [HoldBuffer.held_start, Waits]
  low := show 1 < UInt64.size by decide

variable {mode : AncientMode} {manager : Manager} {operations : List Operation} {operation : Operation}

theorem Tracks.perform (tracks : Tracks mode operations manager.buffer) (regular : operation.Regular) :
    Tracks mode (operations ++ [operation]) (manager.perform operation).buffer := by
  rcases manager.perform_cases regular with ⟨event, arrived, uninstalled, _, buffer⟩ |
    ⟨window, foreign, installed, bound, _, buffer⟩ | ⟨foreign, uninstalled, _, buffer⟩
  · constructor
    · rw [buffer, windowBehind_concat, uninstalled, HoldBuffer.window_add, tracks.window]
      rfl
    · intro other
      rw [buffer, HoldBuffer.mem_held_add tracks.low, waits_concat, arrived, uninstalled, tracks.window, tracks.held]
      simp
    · rw [buffer, HoldBuffer.window_add]
      exact tracks.low
  · constructor
    · rw [buffer, windowBehind_concat, installed, HoldBuffer.window_setWindow]
      rfl
    · intro other
      rw [buffer, HoldBuffer.mem_held_setWindow bound, waits_concat, foreign, installed, tracks.held]
      simp
    · rw [buffer, HoldBuffer.window_setWindow, EventWindow.pendingRound]
      exact Nat.lt_of_le_of_lt (Nat.succ_le_succ bound) (by decide)
  · constructor
    · rw [buffer, windowBehind_concat, uninstalled, tracks.window]
      rfl
    · intro other
      rw [buffer, waits_concat, foreign, uninstalled, tracks.held]
      simp
    · rw [buffer]
      exact tracks.low

theorem Tracks.mem_passes (tracks : Tracks mode operations manager.buffer) (regular : operation.Regular)
    (event : Event) : event ∈ manager.passes operation ↔ Due mode operations event operation := by
  unfold Due
  rcases manager.perform_cases regular with ⟨arrived, arrival, uninstalled, passed, _⟩ |
    ⟨window, foreign, installed, bound, passed, _⟩ | ⟨foreign, uninstalled, passed, _⟩
  · rw [passed, HoldBuffer.mem_passed tracks.low, tracks.window, arrival, uninstalled]
    simp
  · rw [passed, HoldBuffer.mem_released bound, tracks.held, foreign, installed]
    simp
  · rw [passed, foreign, uninstalled]
    simp

theorem tracks_after (fresh : manager.buffer = .start mode) (operations : List Operation)
    (regular : ∀ operation ∈ operations, operation.Regular) :
    Tracks mode operations (manager.after operations).buffer := by
  induction operations using List.reverseRecOn with
  | nil => exact fresh ▸ Tracks.nothing mode
  | append_singleton operations operation ih =>
      rw [List.forall_mem_append, List.forall_mem_singleton] at regular
      rw [after_concat]
      exact (ih regular.1).perform regular.2

theorem conveyed_perform {registered passed : List Event} (conveyed : Conveyed registered passed manager.buffer)
    (regular : operation.Regular) :
    Conveyed (registered ++ operation.registered?.toList) (passed ++ manager.passes operation)
      (manager.perform operation).buffer := by
  rcases manager.perform_cases regular with ⟨event, arrived, _, passes, buffer⟩ |
    ⟨window, foreign, _, bound, passes, buffer⟩ | ⟨foreign, _, passes, buffer⟩
  · rw [arrived, passes, buffer]
    exact conveyed.add event
  · rw [foreign, passes, buffer, Option.toList_none, List.append_nil]
    exact conveyed.setWindow bound
  · rw [foreign, passes, buffer, Option.toList_none, List.append_nil, List.append_nil]
    exact conveyed

theorem parentsFirst_perform {registered passed : List Event}
    (conveyed : Conveyed registered passed manager.buffer) (regular : operation.Regular)
    (inOrder : ParentsFirst (passed ++ manager.buffer.held))
    (registration : ParentsFirst (registered ++ operation.registered?.toList))
    (rise : RoundsRise (registered ++ operation.registered?.toList)) :
    ParentsFirst (passed ++ manager.passes operation ++ (manager.perform operation).buffer.held) := by
  rcases manager.perform_cases regular with ⟨event, arrived, _, passes, buffer⟩ |
    ⟨window, _, _, _, passes, buffer⟩ | ⟨_, _, passes, buffer⟩
  · rw [arrived, Option.toList_some] at registration rise
    rw [passes, buffer]
    exact conveyed.parentsFirst_add inOrder registration rise
  · rw [passes, buffer]
    exact HoldBuffer.parentsFirst_setWindow inOrder window
  · rw [passes, buffer, List.append_nil]
    exact inOrder

theorem registered_concat (operations : List Operation) (operation : Operation) :
    (operations ++ [operation]).filterMap Operation.registered? =
      operations.filterMap Operation.registered? ++ operation.registered?.toList := by
  rw [List.filterMap_append]
  cases arrived : operation.registered? <;> simp [arrived]

theorem conveyed_after (fresh : manager.buffer = .start mode) (operations : List Operation)
    (regular : ∀ operation ∈ operations, operation.Regular) :
    Conveyed (operations.filterMap Operation.registered?) (manager.yields passes operations)
      (manager.after operations).buffer := by
  induction operations using List.reverseRecOn with
  | nil =>
      change Conveyed [] [] manager.buffer
      rw [fresh]
      exact ⟨List.Subperm.refl _, by simp [HoldBuffer.held_start]⟩
  | append_singleton operations operation ih =>
      rw [List.forall_mem_append, List.forall_mem_singleton] at regular
      rw [after_concat, yields_concat, registered_concat]
      exact conveyed_perform (ih regular.1) regular.2

theorem parentsFirst_after (fresh : manager.buffer = .start mode) (operations : List Operation)
    (regular : ∀ operation ∈ operations, operation.Regular)
    (registration : ParentsFirst (operations.filterMap Operation.registered?))
    (rise : RoundsRise (operations.filterMap Operation.registered?)) :
    ParentsFirst (manager.yields passes operations ++ (manager.after operations).buffer.held) := by
  induction operations using List.reverseRecOn with
  | nil =>
      change ParentsFirst ([] ++ manager.buffer.held)
      rw [fresh]
      exact ⟨List.Pairwise.nil, by simp [HoldBuffer.held_start]⟩
  | append_singleton operations operation ih =>
      rw [List.forall_mem_append, List.forall_mem_singleton] at regular
      rw [registered_concat] at registration rise
      have before := List.sublist_append_left (operations.filterMap Operation.registered?)
        operation.registered?.toList
      rw [after_concat, yields_concat]
      exact parentsFirst_perform (conveyed_after fresh operations regular.1) regular.2
        (ih regular.1 (registration.sublist before) (rise.of_subset before.subset)) registration rise

/-- The creator of a manager receives just the events that are passed on: none of them more often than it was
registered, each one with the operation at which it is due, and parents in front of their children if they are
registered so and their rounds rise. -/
theorem events_are_passed_on_once_in_time_and_in_order {mode : AncientMode} {manager : Manager}
    (fresh : manager.buffer = .start mode) (operations : List Operation)
    (regular : ∀ operation ∈ operations, operation.Regular) :
    let registered := operations.filterMap Operation.registered?
    let passed := manager.yields passes operations
    let actions := manager.yields calls operations
    ((manager.after operations).creator = (manager.creator.history actions).creator ∧
        actions.filterMap arrival? = passed) ∧
      (∀ event, passed.count event ≤ registered.count event) ∧
      (∀ before operation since, operations = before ++ operation :: since → ∀ event,
        event ∈ (manager.after before).passes operation ↔ Due mode before event operation) ∧
      (ParentsFirst registered → RoundsRise registered → ParentsFirst passed) := by
  intro registered passed actions
  have conveyed := conveyed_after fresh operations regular
  refine ⟨⟨manager.creator_after operations, manager.arrivals_of_run operations⟩, ?_, ?_, ?_⟩
  · intro event
    have once := (List.sublist_append_left passed (manager.after operations).buffer.held).subperm
    exact (once.trans conveyed.part).count_le event
  · rintro before operation since rfl event
    rw [List.forall_mem_append, List.forall_mem_cons] at regular
    exact (tracks_after fresh before regular.1).mem_passes regular.2.1 event
  · intro registration rise
    exact (parentsFirst_after fresh operations regular registration rise).sublist
      (List.sublist_append_left _ _)

def heldEvents : Event × Event × Event × Event :=
  let parent := Ancestry.sampleEvent 1 [] 2 0
  let early := Ancestry.sampleEvent 2 [] 1 0
  let child := Ancestry.sampleEvent 3 [parent.descriptor, early.descriptor] 2 1
  (parent, early, child, Ancestry.sampleEvent 4 [child.descriptor] 4 2)

def heldRun : List Operation :=
  let (parent, early, child, late) := heldEvents
  [.command (.register parent), .command (.register early), .command (.register child),
    .command (.register late), .command (.setWindow ⟨0, 1, 1, .birthRoundThreshold⟩),
    .attempt (fun _ => .absent) .epoch, .command (.setWindow ⟨1, 2, 1, .birthRoundThreshold⟩),
    .command (.setWindow ⟨5, 6, 5, .birthRoundThreshold⟩)]

theorem heldRun_passes_three_events :
    let (parent, early, child, late) := heldEvents
    let passed := (start loneSeat .birthRoundThreshold .default).yields passes heldRun
    passed = [early, parent, child] ∧ ParentsFirst passed ∧
      Due .birthRoundThreshold (heldRun.take 6) child (.command (.setWindow ⟨1, 2, 1, .birthRoundThreshold⟩)) ∧
      ¬Due .birthRoundThreshold (heldRun.take 7) late (.command (.setWindow ⟨5, 6, 5, .birthRoundThreshold⟩)) := by
  have regular : ∀ operation ∈ heldRun, operation.Regular := by
    simp [heldRun, heldEvents, Operation.Regular]
  have facts := events_are_passed_on_once_in_time_and_in_order
    (rfl : (start loneSeat .birthRoundThreshold .default).buffer = .start .birthRoundThreshold) heldRun regular
  obtain ⟨_, _, inTime, inOrder⟩ := facts
  have registration : ParentsFirst (heldRun.filterMap Operation.registered?) :=
    ⟨by decide +kernel, by decide +kernel⟩
  have rise : RoundsRise (heldRun.filterMap Operation.registered?) := by
    unfold RoundsRise
    decide +kernel
  refine ⟨by decide +kernel, inOrder registration rise, (inTime _ _ _ rfl _).mp (by decide +kernel), ?_⟩
  exact fun due => absurd ((inTime _ _ _ rfl _).mpr due) (by decide +kernel)

end Manager

end Hashgraph
