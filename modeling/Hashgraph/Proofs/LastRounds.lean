import Hashgraph.Proofs.DeadEvents

/-! The end of the rounds. Behind the last round there is no pending one, and a window cuts the held events one round
behind the pending one. So the last two windows stop a buffer, and the events that it holds stay where they are. -/

namespace Hashgraph

def lastRound : Round := 0xffffffffffffffff

namespace EventWindow

theorem latest_lt_of_pending {window : EventWindow} {pending : Round} (found : window.pendingRound? = some pending) :
    window.latestConsensusRound < pending := by
  rw [pendingRound?_eq_some_iff, pendingRound] at found
  rw [UInt64.lt_iff_toNat_lt, found]
  exact Nat.lt_succ_self _

theorem pendingRound?_eq_none_iff_last {window : EventWindow} :
    window.pendingRound? = none ↔ window.latestConsensusRound = lastRound := by
  have range := window.latestConsensusRound.toNat_lt_size
  have last : lastRound.toNat = UInt64.size - 1 := rfl
  rw [pendingRound?_eq_none_iff, pendingRound, ← UInt64.toNat_inj, last]
  omega

end EventWindow

namespace HoldBuffer

theorem late_of_held {window : EventWindow} (bound : window.latestConsensusRound.toNat ≤ 2 ^ 64 - 3)
    (buffer : HoldBuffer) :
    ∃ pending, window.pendingRound? = some pending ∧
      ∀ event ∈ (buffer.setWindow window).2.held, pending < event.birthRound := by
  cases found : window.pendingRound? with
  | none =>
      have high := EventWindow.pendingRound?_eq_none_iff.mp found
      simp only [EventWindow.pendingRound, UInt64.size] at high
      omega
  | some pending =>
      refine ⟨pending, rfl, ?_⟩
      intro event held
      rw [UInt64.lt_iff_toNat_lt, EventWindow.pendingRound?_eq_some_iff.mp found]
      exact ((mem_held_setWindow bound).mp held).2

/-- A window has a pending round, which lies behind its latest round, unless that is the last round of all. Every
buffer takes a window whose latest round is not among the last two, and holds no event of a reached round behind
it. The last two windows stop the buffer, and it lets go of nothing. -/
theorem last_windows_have_no_cutoff (window : EventWindow) :
    (∀ pending, window.pendingRound? = some pending → window.latestConsensusRound < pending) ∧
      (window.pendingRound? = none ↔ window.latestConsensusRound = lastRound) ∧
      ∀ buffer : HoldBuffer,
        let (outcome, next) := buffer.setWindow window
        (window.latestConsensusRound.toNat ≤ 2 ^ 64 - 3 →
          (∃ released, outcome = .ok released) ∧
            ∃ pending, window.pendingRound? = some pending ∧ ∀ event ∈ next.held, pending < event.birthRound) ∧
          (2 ^ 64 - 3 < window.latestConsensusRound.toNat →
            outcome = .error .overflow ∧ next.held = buffer.held) := by
  refine ⟨fun _ => EventWindow.latest_lt_of_pending, EventWindow.pendingRound?_eq_none_iff_last, ?_⟩
  intro buffer
  constructor
  · intro bound
    exact ⟨⟨_, (cut_of_low bound buffer).outcome⟩, late_of_held bound buffer⟩
  · intro high
    change (buffer.setWindow window).1 = _ ∧ (buffer.setWindow window).2.held = _
    rw [setWindow_of_high high]
    exact ⟨rfl, rfl⟩

def twoHeld : HoldBuffer := (start .birthRoundThreshold).after [.add (rootEvent 9), .add (rootEvent 5)]

theorem twoHeld_behind_two_windows :
    (∃ pending, EventWindow.pendingRound? ⟨5, 6, 1, .birthRoundThreshold⟩ = some pending ∧ 5 < pending ∧
      ∀ event ∈ (twoHeld.setWindow ⟨5, 6, 1, .birthRoundThreshold⟩).2.held, pending < event.birthRound) ∧
      (twoHeld.setWindow ⟨5, 6, 1, .birthRoundThreshold⟩).2.held = [rootEvent 9] ∧
      (twoHeld.setWindow ⟨lastRound - 1, lastRound, 1, .birthRoundThreshold⟩).2.held = [rootEvent 5, rootEvent 9] := by
  obtain ⟨above, _, near⟩ := last_windows_have_no_cutoff ⟨5, 6, 1, .birthRoundThreshold⟩
  obtain ⟨_, _, far⟩ := last_windows_have_no_cutoff ⟨lastRound - 1, lastRound, 1, .birthRoundThreshold⟩
  have before : twoHeld.held = [rootEvent 5, rootEvent 9] := by decide +kernel
  obtain ⟨_, pending, found, late⟩ := (near twoHeld).1 (by decide)
  exact ⟨⟨pending, found, above pending found, late⟩, by decide +kernel, ((far twoHeld).2 (by decide)).2.trans before⟩

/-- The window whose latest round is the last one has no pending round, and the one before it stops a buffer. Both
are accepted. -/
theorem accepted_windows_overflow :
    (¬∀ window : EventWindow,
      EventWindow.ofParts window.latestConsensusRound window.newEventBirthRound window.ancientThreshold
          window.mode = .ok window →
        ∃ pending, window.pendingRound? = some pending ∧ window.latestConsensusRound < pending) ∧
      ¬∀ (mode : AncientMode) (steps : List Step) (window : EventWindow),
        EventWindow.ofParts window.latestConsensusRound window.newEventBirthRound window.ancientThreshold
            window.mode = .ok window →
          ∀ pending, window.pendingRound? = some pending →
            ∀ event ∈ (((start mode).after steps).setWindow window).2.held, ¬event.birthRound ≤ pending := by
  constructor
  · intro claimed
    obtain ⟨pending, found, _⟩ := claimed ⟨lastRound, lastRound, 1, .birthRoundThreshold⟩ (by decide)
    have missing : EventWindow.pendingRound? ⟨lastRound, lastRound, 1, .birthRoundThreshold⟩ = none := by decide
    cases missing.symm.trans found
  · intro claimed
    have late := claimed .birthRoundThreshold [.add (rootEvent 5)] ⟨lastRound - 1, lastRound, 1, .birthRoundThreshold⟩
      (by decide) lastRound (by decide) (rootEvent 5) (by decide +kernel)
    exact absurd late (by decide +kernel)

end HoldBuffer

end Hashgraph
