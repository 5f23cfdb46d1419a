import Hashgraph.Proofs.Delivery
import Hashgraph.Proofs.LegalCandidates

/-! The window of a manager is stored twice: its creator and its hold buffer have one each. They agree but for a
clearing: there the creator goes back to the mode it was made with, and the buffer keeps the mode of its last
window. -/

namespace Hashgraph

namespace Creator

theorem window_registrations (creator : Creator) (events : List Event) :
    (events.foldl register creator).window = creator.window := by
  induction events generalizing creator with
  | nil => rfl
  | cons event rest ih => exact (ih (creator.register event)).trans (creator.window_register event)

end Creator

namespace Manager

def Cleared (operations : List Operation) : Prop :=
  ∃ before since, operations = before ++ .command .clear :: since ∧ since.filterMap Operation.window? = []

theorem cleared_concat {operations : List Operation} {operation : Operation} :
    Cleared (operations ++ [operation]) ↔
      operation = .command .clear ∨ (operation.window? = none ∧ Cleared operations) := by
  constructor
  · rintro ⟨before, since, parts, uninstalled⟩
    rcases since.eq_nil_or_concat' with rfl | ⟨since, last, rfl⟩
    · exact Or.inl (List.singleton_inj.mp (List.append_inj' parts rfl).2)
    · rw [← List.cons_append, ← List.append_assoc] at parts
      obtain ⟨rfl, same⟩ := List.append_inj' parts rfl
      cases same
      rw [List.filterMap_append, List.append_eq_nil_iff] at uninstalled
      exact Or.inr ⟨by simpa using uninstalled.2, before, since, rfl, uninstalled.1⟩
  · rintro (rfl | ⟨uninstalled, before, since, rfl, earlier⟩)
    · exact ⟨operations, [], rfl, rfl⟩
    · exact ⟨before, since ++ [operation], by simp, by simp [earlier, uninstalled]⟩

theorem windows_perform (manager : Manager) (operation : Operation) :
    (∃ window, operation.window? = some window ∧ operation ≠ .command .clear ∧
        (manager.perform operation).creator.window = window ∧
        (manager.perform operation).buffer.window = window) ∨
      (operation = .command .clear ∧
        (manager.perform operation).creator.window = .genesis manager.creator.mode ∧
        (manager.perform operation).buffer.window = .genesis manager.buffer.window.mode) ∨
      (operation.window? = none ∧ operation ≠ .command .clear ∧
        (manager.perform operation).creator.window = manager.creator.window ∧
        (manager.perform operation).buffer.window = manager.buffer.window) := by
  rw [buffer_perform]
  cases operation with
  | command command =>
      cases command with
      | register event =>
          refine Or.inr (Or.inr ⟨rfl, by simp, ?_, HoldBuffer.window_add _ _⟩)
          simp only [perform, handle, register_eq]
          exact Creator.window_registrations _ _
      | setWindow window =>
          refine Or.inl ⟨window, rfl, by simp, ?_, HoldBuffer.window_setWindow _ _⟩
          simp only [perform, handle, setWindow_eq]
          exact Creator.window_registrations _ _
      | setPlatformStatus status => exact Or.inr (Or.inr ⟨rfl, by simp, rfl, rfl⟩)
      | setUnhealthy span => exact Or.inr (Or.inr ⟨rfl, by simp, rfl, rfl⟩)
      | clear => exact Or.inr (Or.inl ⟨rfl, rfl, rfl⟩)
  | submit transaction => exact Or.inr (Or.inr ⟨rfl, by simp, rfl, rfl⟩)
  | attempt sign now =>
      refine Or.inr (Or.inr ⟨rfl, by simp, ?_, rfl⟩)
      rcases manager.attempt_cases sign now with ⟨status, _, blocked⟩ | ⟨_, attempted⟩
      · simp only [perform, blocked]
        rfl
      · rw [perform, attempted.creator, Creator.window_attempt]

structure Windows (mode : AncientMode) (operations : List Operation) (manager : Manager) : Prop where
  kept : ¬Cleared operations →
    manager.creator.window = windowBehind mode operations ∧ manager.buffer.window = windowBehind mode operations
  cleared : Cleared operations →
    manager.creator.window = .genesis mode ∧
      manager.buffer.window = .genesis (windowBehind mode operations).mode

variable {mode : AncientMode} {manager : Manager} {operations : List Operation}

theorem Windows.bufferMode (windows : Windows mode operations manager) :
    manager.buffer.window.mode = (windowBehind mode operations).mode := by
  by_cases cleared : Cleared operations
  · rw [(windows.cleared cleared).2]
    rfl
  · rw [(windows.kept cleared).2]

theorem Windows.agree_iff (windows : Windows mode operations manager) :
    manager.creator.window = manager.buffer.window ↔
      (Cleared operations → (windowBehind mode operations).mode = mode) := by
  by_cases cleared : Cleared operations
  · obtain ⟨creator, buffer⟩ := windows.cleared cleared
    rw [creator, buffer]
    constructor
    · exact fun same _ => (congrArg EventWindow.mode same).symm
    · exact fun same => congrArg EventWindow.genesis (same cleared).symm
  · obtain ⟨creator, buffer⟩ := windows.kept cleared
    simp [creator, buffer, cleared]

theorem Windows.perform (windows : Windows mode operations manager) (ownMode : manager.creator.mode = mode)
    (operation : Operation) : Windows mode (operations ++ [operation]) (manager.perform operation) := by
  rcases manager.windows_perform operation with ⟨window, installed, other, creator, buffer⟩ |
    ⟨rfl, creator, buffer⟩ | ⟨uninstalled, other, creator, buffer⟩
  · have uncleared : ¬Cleared (operations ++ [operation]) := by simp [cleared_concat, other, installed]
    have behind : windowBehind mode (operations ++ [operation]) = window := by
      rw [windowBehind_concat, installed, Option.getD_some]
    exact ⟨fun _ => ⟨creator.trans behind.symm, buffer.trans behind.symm⟩, fun cleared => absurd cleared uncleared⟩
  · have cleared : Cleared (operations ++ [.command .clear]) := cleared_concat.mpr (Or.inl rfl)
    have behind : windowBehind mode (operations ++ [.command .clear]) = windowBehind mode operations :=
      windowBehind_concat _ _ _
    refine ⟨fun uncleared => absurd cleared uncleared, fun _ => ⟨?_, ?_⟩⟩
    · rw [creator, ownMode]
    -- The buffer's window has the mode of the last installed one, even if it was cleared in between.
    · rw [buffer, windows.bufferMode, behind]
  · have same : Cleared (operations ++ [operation]) ↔ Cleared operations := by
      simp [cleared_concat, other, uninstalled]
    have behind : windowBehind mode (operations ++ [operation]) = windowBehind mode operations := by
      rw [windowBehind_concat, uninstalled, Option.getD_none]
    constructor
    · rw [same, creator, buffer, behind]
      exact windows.kept
    · rw [same, creator, buffer, behind]
      exact windows.cleared

theorem mode_after (seat : Seat) (mode : AncientMode) (settings : CreationSettings) (operations : List Operation) :
    ((start seat mode settings).after operations).creator.mode = mode := by
  rw [creator_after]
  exact (Creator.stepped_history seat mode settings _).ownMode

theorem windows_after (seat : Seat) (mode : AncientMode) (settings : CreationSettings)
    (operations : List Operation) : Windows mode operations ((start seat mode settings).after operations) := by
  -- Both `windowBehind` and `Cleared` change at the end of a run, so the induction is on its last operation.
  induction operations using List.reverseRecOn with
  | nil => exact ⟨fun _ => ⟨rfl, rfl⟩, fun ⟨_, _, parts, _⟩ => by simp at parts⟩
  | append_singleton operations operation ih =>
      rw [after_concat]
      exact ih.perform (mode_after seat mode settings operations) operation

theorem mode_windowBehind (own : ∀ window ∈ operations.filterMap Operation.window?, window.mode = mode) :
    (windowBehind mode operations).mode = mode := by
  unfold windowBehind
  cases last : (operations.filterMap Operation.window?).getLast? with
  | none => rfl
  | some window => exact own window (List.mem_of_getLast? last)

/-- Creator and hold buffer have the same window, the one that was installed last, until the manager is cleared.
A clearing takes the creator to the genesis window of the manager's mode and the buffer to that of the mode of the
last window. So the windows differ just when a clearing met a window of another mode and no window came since. -/
theorem windows_agree_unless_cleared_in_another_mode (seat : Seat) (mode : AncientMode)
    (settings : CreationSettings) (operations : List Operation) :
    let manager := (start seat mode settings).after operations
    let last := windowBehind mode operations
    (¬Cleared operations → manager.creator.window = last ∧ manager.buffer.window = last) ∧
      (Cleared operations →
        manager.creator.window = .genesis mode ∧ manager.buffer.window = .genesis last.mode) ∧
      (manager.creator.window = manager.buffer.window ↔ (Cleared operations → last.mode = mode)) ∧
      ((∀ window ∈ operations.filterMap Operation.window?, window.mode = mode) →
        manager.creator.window = manager.buffer.window ∧ manager.clear.creator.window = .genesis mode ∧
          manager.clear.buffer.window = .genesis mode) := by
  intro manager last
  have windows := windows_after seat mode settings operations
  refine ⟨windows.kept, windows.cleared, windows.agree_iff, ?_⟩
  intro own
  have lastMode : last.mode = mode := mode_windowBehind own
  refine ⟨windows.agree_iff.mpr fun _ => lastMode, ?_, ?_⟩
  · exact congrArg EventWindow.genesis (mode_after seat mode settings operations)
  · exact congrArg EventWindow.genesis (windows.bufferMode.trans lastMode)

def strayOperations : List Operation :=
  [.command (.setWindow ⟨1, 2, 2, .birthRoundThreshold⟩), .command .clear,
    .command (.setWindow ⟨2, 3, 1, .generationThreshold⟩), .command .clear]

theorem strayOperations_part_and_rejoin_windows :
    let manager := start loneSeat .generationThreshold .default
    (manager.after (strayOperations.take 2)).creator.window ≠
        (manager.after (strayOperations.take 2)).buffer.window ∧
      (manager.after strayOperations).creator.window = (manager.after strayOperations).buffer.window := by
  intro manager
  constructor
  · intro same
    have agree := windows_agree_unless_cleared_in_another_mode loneSeat .generationThreshold .default
      (strayOperations.take 2)
    have own := agree.2.2.1.mp same ⟨strayOperations.take 1, [], rfl, rfl⟩
    cases own
  · have agree := windows_agree_unless_cleared_in_another_mode loneSeat .generationThreshold .default
      strayOperations
    exact agree.2.2.1.mpr fun _ => rfl

/-- A clearing behind a window of another mode leaves two windows of different modes. -/
theorem windows_differ_behind_a_window_of_another_mode :
    ¬∀ (seat : Seat) (mode : AncientMode) (settings : CreationSettings) (operations : List Operation),
      (∀ window ∈ operations.filterMap Operation.window?,
        EventWindow.ofParts window.latestConsensusRound window.newEventBirthRound window.ancientThreshold
          window.mode = .ok window) →
      let manager := (start seat mode settings).after operations
      manager.creator.window = manager.buffer.window ∧
        manager.clear.creator.window = .genesis mode ∧ manager.clear.buffer.window = .genesis mode := by
  intro claimed
  have accepted := claimed loneSeat .generationThreshold .default (strayOperations.take 2) (by decide)
  exact absurd accepted.1 (by decide +kernel)

end Manager

end Hashgraph
