import Hashgraph.Proofs.Candidates
import Hashgraph.Proofs.Liveness

/-! Candidates are always legal. Childless events and tipsets are kept apart, yet every childless event is tracked,
young, and of another member, and an event that has become ancient is no candidate again while windows move
forward. -/

namespace Hashgraph

namespace EventWindow

def MovesTo (window next : EventWindow) : Prop :=
  next.mode = window.mode ∧ window.ancientThreshold ≤ next.ancientThreshold

instance (window next : EventWindow) : Decidable (window.MovesTo next) :=
  inferInstanceAs (Decidable (next.mode = window.mode ∧ window.ancientThreshold ≤ next.ancientThreshold))

theorem MovesTo.refl (window : EventWindow) : window.MovesTo window := ⟨rfl, UInt64.le_refl _⟩

theorem MovesTo.trans {first second third : EventWindow} (before : first.MovesTo second)
    (behind : second.MovesTo third) : first.MovesTo third :=
  ⟨behind.1.trans before.1, UInt64.le_trans before.2 behind.2⟩

theorem MovesTo.isAncient {window next : EventWindow} (moves : window.MovesTo next)
    {descriptor : EventDescriptor} (ancient : window.isAncient descriptor = true) :
    next.isAncient descriptor = true := by
  obtain ⟨mode, threshold⟩ := moves
  unfold EventWindow.isAncient isAncientIndicator at ancient ⊢
  rw [mode]
  exact decide_eq_true (UInt64.lt_of_lt_of_le (of_decide_eq_true ancient) threshold)

end EventWindow

namespace Creator

variable {σ : Type}

def Forward (window : EventWindow) : List (Action σ) → Prop
  | [] => True
  | .register _ :: rest => Forward window rest
  | .install next :: rest => window.MovesTo next ∧ Forward next rest
  | .attempt _ _ _ :: rest => Forward window rest
  | .clear :: _ => False

instance : (window : EventWindow) → (actions : List (Action σ)) → Decidable (Forward window actions)
  | _, [] => isTrue trivial
  | window, .register _ :: rest => instDecidableForward window rest
  | window, .install next :: rest =>
      have := instDecidableForward next rest
      inferInstanceAs (Decidable (window.MovesTo next ∧ Forward next rest))
  | window, .attempt _ _ _ :: rest => instDecidableForward window rest
  | _, .clear :: _ => isFalse id

theorem window_attempt (creator : Creator) (surroundings : Surroundings σ) (now : Instant) (supply : σ) :
    (creator.attempt surroundings now supply).creator.window = creator.window := by
  rcases creator.attempt_cases surroundings now supply with ⟨_, _, _, _, _, extended⟩ | ⟨_, agrees⟩
  · exact extended.window
  · rw [window, agrees.ancestry, window]

theorem Forward.movesTo {creator : Creator} {actions : List (Action σ)} (forward : Forward creator.window actions) :
    creator.window.MovesTo (creator.history actions).creator.window := by
  induction actions generalizing creator with
  | nil => exact .refl _
  | cons action rest ih =>
      rw [creator_history_cons]
      cases action with
      | register event =>
          have same : (creator.register event).window = creator.window := window_register creator event
          have ahead : Forward (creator.register event).window rest := same ▸ forward
          exact same ▸ ih ahead
      | install next =>
          have ahead : Forward (creator.setWindow next).window rest := forward.2
          exact forward.1.trans (ih ahead)
      | attempt surroundings now supply =>
          have same := creator.window_attempt surroundings now supply
          have after : (creator.history [.attempt surroundings now supply]).creator =
              (creator.attempt surroundings now supply).creator := creator_next_attempt _ _ _ _
          rw [after]
          have ahead : Forward (creator.attempt surroundings now supply).creator.window rest := same ▸ forward
          exact same ▸ ih ahead
      | clear => exact forward.elim

theorem last_history (seat : Seat) (mode : AncientMode) (settings : CreationSettings) (actions : List (Action σ)) :
    ∀ parent ∈ ((Creator.start seat mode settings).history actions).creator.lastDescriptor,
      parent.creator = seat.node := by
  induction actions using List.reverseRecOn with
  | nil => simp [history, lastDescriptor, Creator.start]
  | append_singleton actions action ih =>
      have node := congrArg Seat.node (stepped_history seat mode settings actions).seated
      rw [history_concat]
      generalize (Creator.start seat mode settings).history actions = chronicle at ih node
      cases action with
      | register event =>
          rcases chronicle.creator.register_cases event with same | ⟨_, mine, _, replaced⟩ | ⟨_, _, peer⟩
          · simpa only [Chronicle.next, same] using ih
          · simp only [Chronicle.next, replaced, lastDescriptor, Option.map_some, Option.mem_some_iff, forall_eq']
            exact mine.trans node
          · simp only [Chronicle.next, peer]
            exact ih
      | install window => exact ih
      | attempt surroundings now supply =>
          rcases chronicle.next_attempt_cases surroundings now supply with
            ⟨_, event, after, result, _, made, extended⟩ | ⟨after, result, agrees⟩
          · rw [result, lastDescriptor, extended.lastSelfEvent]
            simp only [Option.map_some, Option.mem_some_iff, forall_eq']
            exact made.creator.trans node
          · rw [result, lastDescriptor, agrees.lastSelfEvent]
            exact ih
      | clear => simp [Chronicle.next, clear, lastDescriptor]

theorem legal_history (seat : Seat) (mode : AncientMode) (settings : CreationSettings) (actions : List (Action σ)) :
    let creator := ((Creator.start seat mode settings).history actions).creator
    ∀ candidate ∈ creator.childless.events,
      seat.roster.contains candidate.creator = true ∧ candidate.creator ≠ seat.node ∧
        creator.window.isAncient candidate.descriptor = false ∧
        (creator.ancestry.tipset? candidate.descriptor).isSome = true := by
  intro creator candidate listed
  have measured := measured_history seat mode settings actions
  have suitable := (stocked_history seat mode settings actions).suitable listed
  have seated : creator.seat = seat := measured.seated
  exact ⟨seated ▸ suitable.member, seated ▸ suitable.other, suitable.young measured.fresh, suitable.tracked⟩

/-- In every state that a run reaches, each childless event comes from another member, is young, and is tracked.
So the parents that a theoretical advancement is asked for are tracked and young, but for the node's own. And an
event that is ancient there is childless in no state that is reached from there without a clearing and with windows
that move forward. -/
theorem candidates_are_always_legal (seat : Seat) (mode : AncientMode) (settings : CreationSettings)
    (actions : List (Action σ)) :
    let creator := ((Creator.start seat mode settings).history actions).creator
    (∀ candidate ∈ creator.childless.events,
      seat.roster.contains candidate.creator = true ∧ candidate.creator ≠ seat.node ∧
        creator.window.isAncient candidate.descriptor = false ∧
        (creator.ancestry.tipset? candidate.descriptor).isSome = true) ∧
      (∀ candidate ∈ creator.sortedCandidates, ∀ parent ∈ candidate.descriptor :: creator.lastDescriptor.toList,
        parent.creator ≠ seat.node →
          creator.window.isAncient parent = false ∧ (creator.ancestry.tipset? parent).isSome = true) ∧
      ∀ descriptor, creator.window.isAncient descriptor = true →
        ∀ later : List (Action σ), Forward creator.window later →
          ∀ candidate ∈ (creator.history later).creator.childless.events, candidate.descriptor ≠ descriptor := by
  intro creator
  refine ⟨legal_history seat mode settings actions, ?_, ?_⟩
  · intro candidate listed parent named other
    rcases List.mem_cons.mp named with rfl | own
    · exact (legal_history seat mode settings actions candidate (mem_sortedCandidates.mp listed)).2.2
    · exact absurd (last_history seat mode settings actions parent (Option.mem_toList.mp own)) other
  · intro descriptor ancient later forward candidate listed same
    have reached := creator_history_append (Creator.start seat mode settings) actions later
    have legal := legal_history seat mode settings (actions ++ later) candidate (reached ▸ listed)
    have young := legal.2.2.1
    rw [reached, same] at young
    have still : (creator.history later).creator.window.isAncient descriptor = true :=
      forward.movesTo.isAncient ancient
    exact Bool.noConfusion (young.symm.trans still)

def outdatedRun : List (Action Unit) :=
  [.attempt silent .epoch (), .register (Ancestry.sampleEvent 1 [] 1 4), .install ⟨1, 2, 2, .birthRoundThreshold⟩]

def repeatedRun : List (Action Unit) :=
  [.register (Ancestry.sampleEvent 1 [] 1 9), .register (Ancestry.sampleEvent 2 [] 2 0), .attempt silent .epoch (),
    .register (Ancestry.sampleEvent 2 [] 3 1), .install ⟨2, 3, 2, .birthRoundThreshold⟩]

theorem outdatedRun_leaves_first_event_behind :
    let descriptor := (Ancestry.sampleEvent 1 [] 1 4).descriptor
    let creator := ((Creator.start triadSeat .birthRoundThreshold .default).history outdatedRun).creator
    creator.window.isAncient descriptor = true ∧
      (creator.history repeatedRun).creator.childless.events.map Event.creator = [⟨2⟩] ∧
      ∀ candidate ∈ (creator.history repeatedRun).creator.childless.events, candidate.descriptor ≠ descriptor := by
  have facts :
      let creator := ((Creator.start triadSeat .birthRoundThreshold .default).history outdatedRun).creator
      creator.window.isAncient (Ancestry.sampleEvent 1 [] 1 4).descriptor = true ∧
        (creator.history repeatedRun).creator.childless.events.map Event.creator = [⟨2⟩] ∧
        Forward creator.window repeatedRun := by
    decide +kernel
  obtain ⟨ancient, members, forward⟩ := facts
  have legal := candidates_are_always_legal triadSeat .birthRoundThreshold .default outdatedRun
  exact ⟨ancient, members, legal.2.2 _ ancient repeatedRun forward⟩

end Creator

end Hashgraph
