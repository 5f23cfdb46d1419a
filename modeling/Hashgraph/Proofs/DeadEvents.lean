import Hashgraph.Proofs.HoldingList
import Hashgraph.Proofs.LegalCandidates

/-! Dead events in the hold buffer. A window looks for ancient events among those only whose round it reaches; an
ancient event of a later round stays held. It is dropped when its round is reached, so that it is never passed on
while windows move forward. -/

namespace Hashgraph

/-- Under such a window no event is ancient whose round comes later. -/
def EventWindow.ReachesAncient (window : EventWindow) : Prop :=
  match window.mode with
  | .birthRoundThreshold => window.ancientThreshold.toNat ≤ window.pendingRound + 1
  | .generationThreshold => window.ancientThreshold = firstGeneration

namespace HoldBuffer

def Forward (window : EventWindow) : List Step → Prop
  | [] => True
  | .add _ :: rest => Forward window rest
  | .install next :: rest => window.MovesTo next ∧ Forward next rest
  | .clear :: _ => False

theorem young_of_passed {buffer : HoldBuffer} {arrived event : Event} (passed : event ∈ buffer.passed arrived) :
    buffer.window.isAncient event.descriptor = false := by
  cases buffer.add_cases arrived with
  | passed young _ added =>
      rw [passed_of_add added] at passed
      exact List.mem_singleton.mp passed ▸ young
  | dropped _ added | held _ _ added | overflow _ added =>
      rw [passed_of_add added] at passed
      exact absurd passed List.not_mem_nil

theorem young_of_released {buffer : HoldBuffer} {window : EventWindow} {event : Event}
    (released : event ∈ buffer.released window) : window.isAncient event.descriptor = false := by
  rcases buffer.setWindow_cases window with cut | overflow
  · rw [cut.released] at released
    simp only [reached, List.mem_filter, Bool.and_eq_true, beq_iff_eq] at released
    exact released.2.2
  · rw [HoldBuffer.released, overflow] at released
    exact absurd released List.not_mem_nil

theorem Forward.young_of_returned {buffer : HoldBuffer} {steps : List Step}
    (forward : Forward buffer.window steps) {event : Event} (returned : event ∈ buffer.returns steps) :
    buffer.window.isAncient event.descriptor = false := by
  induction steps generalizing buffer with
  | nil => exact absurd returned List.not_mem_nil
  | cons step rest ih =>
      rcases List.mem_append.mp returned with now | later
      · cases step with
        | add arrived => exact young_of_passed now
        | install next =>
            have young := young_of_released now
            rw [← Bool.not_eq_true] at young ⊢
            exact fun ancient => young (forward.1.isAncient ancient)
        | clear => exact forward.elim
      · cases step with
        | add arrived =>
            have same : (buffer.add arrived).2.window = buffer.window := buffer.window_add arrived
            have ahead : Forward (buffer.add arrived).2.window rest := same ▸ forward
            exact same ▸ ih ahead later
        | install next =>
            have same : (buffer.setWindow next).2.window = next := window_setWindow buffer next
            have ahead : Forward (buffer.setWindow next).2.window rest := same.symm ▸ forward.2
            have young : next.isAncient event.descriptor = false := same ▸ ih ahead later
            rw [← Bool.not_eq_true] at young ⊢
            exact fun ancient => young (forward.1.isAncient ancient)
        | clear => exact forward.elim

theorem young_of_reachesAncient {window : EventWindow} (reaches : window.ReachesAncient) {event : Event}
    (later : window.pendingRound < event.birthRound.toNat) : window.isAncient event.descriptor = false := by
  unfold EventWindow.ReachesAncient at reaches
  unfold EventWindow.isAncient EventWindow.isAncientIndicator AncientMode.indicator
  refine decide_eq_false (UInt64.not_lt.mpr ?_)
  split at reaches
  · rename_i mode
    rw [mode, UInt64.le_iff_toNat_le]
    exact Nat.le_trans reaches later
  · rename_i mode
    rw [mode, reaches]
    exact UInt64.zero_le

def rootEvent (birthRound : Round) : Event := Ancestry.sampleEvent 1 [] birthRound 0

theorem held_rootEvent (mode : AncientMode) {birthRound : Round} (later : 1 < birthRound) :
    ((start mode).after [.add (rootEvent birthRound)]).held = [rootEvent birthRound] := by
  have young : (start mode).window.isAncient (rootEvent birthRound).descriptor = false := by
    refine decide_eq_false (UInt64.not_lt.mpr ?_)
    cases mode with
    | birthRoundThreshold => exact UInt64.le_of_lt later
    | generationThreshold => exact UInt64.zero_le
  have early : (start mode).window.pendingRound < (rootEvent birthRound).birthRound.toNat :=
    UInt64.lt_iff_toNat_lt.mp later
  change ((start mode).add (rootEvent birthRound)).2.held = _
  cases (start mode).add_cases (rootEvent birthRound) with
  | dropped ancient _ => exact absurd (young.symm.trans ancient) Bool.false_ne_true
  | passed _ ripe _ => exact absurd ripe (Nat.not_le.mpr early)
  | held _ _ added =>
      rw [added, held_hold]
      rfl
  | overflow high _ => exact absurd high (show ¬UInt64.size ≤ 1 by decide)

theorem exists_dead_of_not_reachesAncient {window : EventWindow}
    (bound : window.latestConsensusRound.toNat ≤ 2 ^ 64 - 3) (misses : ¬window.ReachesAncient) :
    ∃ event, event ∈ (((start window.mode).after [.add event]).setWindow window).2.held ∧
      window.isAncient event.descriptor = true := by
  obtain ⟨cutoff, found⟩ : ∃ cutoff, cutoff? window = some cutoff := by
    rw [← Option.ne_none_iff_exists', Ne, cutoff?_eq_none_iff]
    omega
  have above := cutoff?_eq_some_iff.mp found
  have later : 1 < cutoff := by
    rw [UInt64.lt_iff_toNat_lt, above, EventWindow.pendingRound, UInt64.toNat_one]
    omega
  refine ⟨rootEvent cutoff, ?_, ?_⟩
  · rw [(cut_of_cutoff found _).held, held_rootEvent _ later, List.mem_filter, decide_eq_true_eq]
    exact ⟨List.mem_singleton_self _, Nat.lt_of_succ_le (Nat.le_of_eq above.symm)⟩
  · unfold EventWindow.ReachesAncient at misses
    refine decide_eq_true ?_
    split at misses
    · rename_i mode
      rw [mode]
      rw [← above] at misses
      exact UInt64.not_le.mp misses
    · rename_i mode
      rw [mode]
      exact UInt64.lt_of_le_of_ne UInt64.zero_le fun first => misses first.symm

/-- Of the held events that are ancient under a window just those of later rounds stay behind it, and none of them
is passed on while windows move forward. So no event is kept dead just if the window's threshold lies at or below
the round behind the pending one, or if it counts generations and lets all of them live. Windows at the very end of
the rounds have no such round: they stop the buffer, and all events stay. -/
theorem windows_drop_dead_events_of_reached_rounds (window : EventWindow) :
    (∀ (mode : AncientMode) (steps : List Step),
      let buffer := (start mode).after steps
      let (outcome, next) := buffer.setWindow window
      (window.latestConsensusRound.toNat ≤ 2 ^ 64 - 3 →
        (∃ released, outcome = .ok released) ∧
          next.held.filter (fun event => window.isAncient event.descriptor) =
            buffer.held.filter (fun event =>
              window.isAncient event.descriptor && decide (window.pendingRound < event.birthRound.toNat))) ∧
        (2 ^ 64 - 3 < window.latestConsensusRound.toNat → outcome = .error .overflow ∧ next.held = buffer.held) ∧
        ∀ later, Forward window later → ∀ event ∈ buffer.released window ++ next.returns later,
          window.isAncient event.descriptor = false) ∧
      (window.latestConsensusRound.toNat ≤ 2 ^ 64 - 3 →
        ((∀ (mode : AncientMode) (steps : List Step),
          ∀ event ∈ (((start mode).after steps).setWindow window).2.held,
            window.isAncient event.descriptor = false) ↔ window.ReachesAncient)) := by
  refine ⟨?_, ?_⟩
  · intro mode steps buffer
    refine ⟨?_, ?_, ?_⟩
    · intro bound
      have cut := cut_of_low bound buffer
      refine ⟨⟨_, cut.outcome⟩, ?_⟩
      change (buffer.setWindow window).2.held.filter _ = _
      rw [cut.held, List.filter_filter]
    · intro high
      change (buffer.setWindow window).1 = _ ∧ (buffer.setWindow window).2.held = _
      rw [setWindow_of_high high]
      exact ⟨rfl, rfl⟩
    · intro later forward event listed
      rcases List.mem_append.mp listed with now | returned
      · exact young_of_released now
      · have same : (buffer.setWindow window).2.window = window := window_setWindow buffer window
        have ahead : Forward (buffer.setWindow window).2.window later := same.symm ▸ forward
        exact same ▸ ahead.young_of_returned returned
  · intro bound
    constructor
    · intro alive
      by_contra misses
      obtain ⟨event, held, dead⟩ := exists_dead_of_not_reachesAncient bound misses
      exact Bool.false_ne_true ((alive _ _ event held).symm.trans dead)
    · intro reaches mode steps event held
      exact young_of_reachesAncient reaches ((mem_held_setWindow bound).mp held).2

theorem dead_event_waits_for_its_round :
    let window : EventWindow := ⟨3, 4, 7, .birthRoundThreshold⟩
    let later : List Step := [.add (rootEvent 8), .install ⟨9, 10, 7, .birthRoundThreshold⟩]
    let next := (((start .birthRoundThreshold).after [.add (rootEvent 9), .add (rootEvent 5)]).setWindow window).2
    next.held.filter (fun event => window.isAncient event.descriptor) = [rootEvent 5] ∧
      next.returns later = [rootEvent 8, rootEvent 9] ∧
      (∀ event ∈ next.returns later, window.isAncient event.descriptor = false) ∧ ¬window.ReachesAncient := by
  intro window later next
  have dropped := windows_drop_dead_events_of_reached_rounds window
  obtain ⟨stay, _, forward⟩ := dropped.1 .birthRoundThreshold [.add (rootEvent 9), .add (rootEvent 5)]
  have ahead : Forward window later := ⟨⟨rfl, by decide⟩, trivial⟩
  refine ⟨(stay (by decide)).2.trans (by decide +kernel), by decide +kernel, ?_, ?_⟩
  · exact fun event returned => forward later ahead event (List.mem_append_right _ returned)
  · rw [← dropped.2 (by decide)]
    intro alive
    have young := alive .birthRoundThreshold [.add (rootEvent 5)] (rootEvent 5) (by decide +kernel)
    exact absurd young (by decide +kernel)

/-- An event of the first generation and of a later round stays when its generation has become ancient. -/
theorem events_stay_held_when_dead :
    ¬∀ (mode : AncientMode) (steps : List Step) (window : EventWindow),
      EventWindow.ofParts window.latestConsensusRound window.newEventBirthRound window.ancientThreshold
          window.mode = .ok window →
        ∀ event ∈ (((start mode).after steps).setWindow window).2.held,
          window.isAncient event.descriptor = false := by
  intro claimed
  have young := claimed .generationThreshold [.add (rootEvent 5)] ⟨1, 2, 1, .generationThreshold⟩ (by decide)
    (rootEvent 5) (by decide +kernel)
  exact absurd young (by decide +kernel)

end HoldBuffer

end Hashgraph
