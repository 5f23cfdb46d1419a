import Mathlib.Data.List.Chain
import Hashgraph.Proofs.Attempts

/-! Runs of a creator: any order of registrations, windows, attempts and clearings. The events that were made
since the last clearing are recorded together with the states in which they were made. -/

namespace Hashgraph

namespace Creator

/-- What may happen to a creator. Signatures, the clock and the supply may be different at every attempt. -/
inductive Action (σ : Type) where
  | register (event : Event)
  | install (window : EventWindow)
  | attempt (surroundings : Surroundings σ) (now : Instant) (supply : σ)
  | clear

structure Creation where
  before : Creator
  event : Event

namespace Creation

def tipset (creation : Creation) : Tipset :=
  (creation.before.ancestry.addSelfEvent creation.before.seat.roster creation.event.descriptor
    creation.event.parents).1

def ParentTracked (creation : Creation) : Prop :=
  ∃ parent tipset, creation.before.lastSelfEvent = some parent ∧
    creation.before.ancestry.tipset? parent.descriptor = some tipset

end Creation

/-- A creator with its creations since it was last cleared, the latest one first. -/
structure Chronicle where
  creator : Creator
  creations : List Creation

variable {σ : Type}

namespace Chronicle

def next (chronicle : Chronicle) : Action σ → Chronicle
  | .register event => { chronicle with creator := chronicle.creator.register event }
  | .install window => { chronicle with creator := chronicle.creator.setWindow window }
  | .attempt surroundings now supply =>
      let attempt := chronicle.creator.attempt surroundings now supply
      match attempt.outcome with
      | .ok (some event) => ⟨attempt.creator, ⟨chronicle.creator, event⟩ :: chronicle.creations⟩
      | _ => { chronicle with creator := attempt.creator }
  | .clear => ⟨chronicle.creator.clear, []⟩

end Chronicle

def history (creator : Creator) (actions : List (Action σ)) : Chronicle :=
  actions.foldl Chronicle.next ⟨creator, []⟩

def silent : Surroundings Unit := ⟨fun _ => .absent, fun supply => ([], supply)⟩

structure Admits (creator : Creator) (event : Event) : Prop where
  young : creator.window.isAncient event.descriptor = false
  member : creator.seat.roster.contains event.creator = true

theorem register_cases (creator : Creator) (event : Event) :
    creator.register event = creator ∨
      (Admits creator event ∧ event.creator = creator.seat.node ∧ creator.isNewerSelfEvent event = true ∧
        creator.register event =
          { creator with
            childless := creator.childless.retire event.otherParents
            ancestry := (creator.ancestry.addSelfEvent creator.seat.roster event.descriptor event.parents).2
            lastSelfEvent := some event }) ∨
      (Admits creator event ∧ event.creator ≠ creator.seat.node ∧
        creator.register event =
          { creator with
            ancestry := (creator.ancestry.addPeerEvent creator.seat.roster event).2
            childless := creator.childless.add event }) := by
  unfold register
  split
  · exact Or.inl rfl
  rename_i young
  split
  · exact Or.inl rfl
  rename_i member
  have admitted : Admits creator event := ⟨by simpa using young, by simpa using member⟩
  split
  · rename_i own
    split
    · rename_i newer
      exact Or.inr (Or.inl ⟨admitted, own, newer, rfl⟩)
    · exact Or.inl rfl
  · rename_i other
    exact Or.inr (Or.inr ⟨admitted, other, rfl⟩)

theorem register_of_peer {creator : Creator} {event : Event}
    (young : creator.window.isAncient event.descriptor = false)
    (member : creator.seat.roster.contains event.creator = true) (other : event.creator ≠ creator.seat.node) :
    creator.register event =
      { creator with
        ancestry := (creator.ancestry.addPeerEvent creator.seat.roster event).2
        childless := creator.childless.add event } := by
  simp [register, young, member, other]

theorem isNewerSelfEvent_of_unnumbered {creator : Creator} {last : Event}
    (held : creator.lastSelfEvent = some last) (unnumbered : last.nGen = none) (event : Event) :
    creator.isNewerSelfEvent event = false := by
  simp [isNewerSelfEvent, held, unnumbered]

@[simp] theorem seat_register (creator : Creator) (event : Event) : (creator.register event).seat = creator.seat := by
  rcases creator.register_cases event with same | ⟨_, _, _, replaced⟩ | ⟨_, _, peer⟩
  · rw [same]
  · rw [replaced]
  · rw [peer]

theorem seat_attempt (creator : Creator) (surroundings : Surroundings σ) (now : Instant) (supply : σ) :
    (creator.attempt surroundings now supply).creator.seat = creator.seat := by
  rcases creator.attempt_cases surroundings now supply with ⟨_, _, _, _, _, extended⟩ | ⟨_, agrees⟩
  · exact extended.seat
  · exact agrees.seat

theorem counters_register (creator : Creator) (event : Event) :
    (creator.register event).counters = creator.counters := by
  rcases creator.register_cases event with same | ⟨_, _, _, replaced⟩ | ⟨_, _, peer⟩
  · rw [same]
  · rw [replaced]
  · rw [peer]

@[simp] theorem window_register (creator : Creator) (event : Event) :
    (creator.register event).window = creator.window := by
  rcases creator.register_cases event with same | ⟨_, _, _, replaced⟩ | ⟨_, _, peer⟩
  · rw [same]
  · rw [replaced]
    exact Ancestry.window_receive _ _ (.own event.descriptor event.parents)
  · rw [peer]
    exact Ancestry.window_receive _ _ (.peer event)

theorem Extended.window {before after : Creator} {event : Event} (extended : Extended before event after) :
    after.window = before.window := by
  rw [Creator.window, extended.ancestry]
  exact Ancestry.window_receive _ _ (.own event.descriptor event.parents)

namespace Chronicle

theorem next_attempt_cases (chronicle : Chronicle) (surroundings : Surroundings σ) (now : Instant) (supply : σ) :
    (∃ other event after, chronicle.next (.attempt surroundings now supply) =
        ⟨after, ⟨chronicle.creator, event⟩ :: chronicle.creations⟩ ∧ MayBuildOn chronicle.creator other ∧
        Made chronicle.creator surroundings now other event ∧ Extended chronicle.creator event after) ∨
      ∃ after, chronicle.next (.attempt surroundings now supply) = ⟨after, chronicle.creations⟩ ∧
        Agrees chronicle.creator after := by
  rcases chronicle.creator.attempt_cases surroundings now supply with
    ⟨other, event, created, parent, made, extended⟩ | ⟨refused, agrees⟩
  · refine Or.inl ⟨other, event, _, ?_, parent, made, extended⟩
    simp only [next, created]
  · refine Or.inr ⟨_, ?_, agrees⟩
    simp only [next]

end Chronicle

theorem history_induction (creator : Creator) (actions : List (Action σ)) {motive : Chronicle → Prop}
    (start : motive ⟨creator, []⟩)
    (next : ∀ chronicle, motive chronicle → ∀ action ∈ actions, motive (chronicle.next action)) :
    motive (creator.history actions) :=
  List.foldlRecOn actions _ start next

theorem history_concat (creator : Creator) (actions : List (Action σ)) (action : Action σ) :
    creator.history (actions ++ [action]) = (creator.history actions).next action := by
  simp [history]

theorem creator_next_attempt (chronicle : Chronicle) (surroundings : Surroundings σ) (now : Instant) (supply : σ) :
    (chronicle.next (.attempt surroundings now supply)).creator =
      (chronicle.creator.attempt surroundings now supply).creator := by
  simp only [Chronicle.next]
  split <;> rfl

theorem creator_foldl_next (actions : List (Action σ)) {chronicle other : Chronicle}
    (same : chronicle.creator = other.creator) :
    (actions.foldl Chronicle.next chronicle).creator = (actions.foldl Chronicle.next other).creator := by
  induction actions generalizing chronicle other with
  | nil => exact same
  | cons action rest ih =>
      apply ih
      cases action with
      | register event => exact congrArg (·.register event) same
      | install window => exact congrArg (·.setWindow window) same
      | attempt surroundings now supply =>
          rw [creator_next_attempt, creator_next_attempt, same]
      | clear => exact congrArg Creator.clear same

theorem creator_history_append (creator : Creator) (actions more : List (Action σ)) :
    (creator.history (actions ++ more)).creator = ((creator.history actions).creator.history more).creator := by
  rw [history, List.foldl_append]
  exact creator_foldl_next more rfl

theorem creator_history_cons (creator : Creator) (action : Action σ) (rest : List (Action σ)) :
    (creator.history (action :: rest)).creator = ((creator.history [action]).creator.history rest).creator :=
  creator_history_append creator [action] rest

structure Stepped (seat : Seat) (mode : AncientMode) (creator : Creator) : Prop where
  seated : creator.seat = seat
  ownMode : creator.mode = mode
  steps : ∃ steps, (∀ step ∈ steps, Ancestry.Step.BelongsTo seat.node step) ∧
    creator.ancestry = (Ancestry.Record.ofSteps seat.roster mode steps).ancestry

theorem Stepped.agrees {seat : Seat} {mode : AncientMode} {before after : Creator}
    (stepped : Stepped seat mode before) (same : Agrees before after) : Stepped seat mode after where
  seated := same.seat.trans stepped.seated
  ownMode := same.mode.trans stepped.ownMode
  steps := same.ancestry ▸ stepped.steps

theorem Stepped.take {seat : Seat} {mode : AncientMode} {before after : Creator}
    (stepped : Stepped seat mode before) (step : Ancestry.Step) (owned : step.BelongsTo seat.node)
    (sameSeat : after.seat = before.seat) (sameMode : after.mode = before.mode)
    (taken : ∀ additions, after.ancestry =
      (Ancestry.Record.next seat.roster mode ⟨before.ancestry, additions⟩ step).ancestry) :
    Stepped seat mode after where
  seated := sameSeat.trans stepped.seated
  ownMode := sameMode.trans stepped.ownMode
  steps := by
    obtain ⟨steps, belong, equal⟩ := stepped.steps
    refine ⟨steps ++ [step], ?_, ?_⟩
    · intro other member
      rcases List.mem_append.mp member with earlier | last
      · exact belong other earlier
      · rw [List.mem_singleton] at last
        exact last ▸ owned
    · rw [Ancestry.Record.ofSteps_concat, taken (Ancestry.Record.ofSteps seat.roster mode steps).additions, equal]

theorem Stepped.next {seat : Seat} {mode : AncientMode} {chronicle : Chronicle}
    (stepped : Stepped seat mode chronicle.creator) (action : Action σ) :
    Stepped seat mode (chronicle.next action).creator := by
  have roster : chronicle.creator.seat.roster = seat.roster := congrArg Seat.roster stepped.seated
  have node : chronicle.creator.seat.node = seat.node := congrArg Seat.node stepped.seated
  cases action with
  | register event =>
      rcases chronicle.creator.register_cases event with same | ⟨_, own, _, replaced⟩ | ⟨_, other, peer⟩
      · simpa only [Chronicle.next, same] using stepped
      · apply stepped.take (.add (.own event.descriptor event.parents)) (own.trans node)
        all_goals simp only [Chronicle.next, replaced, Ancestry.Record.next, Ancestry.receive, roster, implies_true]
      · apply stepped.take (.add (.peer event)) (fun same => other (same.trans node.symm))
        all_goals simp only [Chronicle.next, peer, Ancestry.Record.next, Ancestry.receive, roster, implies_true]
  | install window => exact stepped.take (.install window) trivial rfl rfl fun _ => rfl
  | attempt surroundings now supply =>
      rcases chronicle.next_attempt_cases surroundings now supply with
        ⟨other, event, after, result, _, made, extended⟩ | ⟨after, result, agrees⟩
      · rw [result]
        apply stepped.take (.add (.own event.descriptor event.parents)) (made.creator.trans node) extended.seat
          extended.mode
        intro additions
        rw [extended.ancestry, roster]
        rfl
      · rw [result]
        exact stepped.agrees agrees
  | clear =>
      refine stepped.take .clear trivial ?_ ?_ ?_
      · rfl
      · rfl
      · intro additions
        simp only [Chronicle.next, clear, Ancestry.Record.next, roster, stepped.ownMode]

/-- Whatever a creator goes through, its ancestry goes through a run of its own. -/
theorem stepped_history (seat : Seat) (mode : AncientMode) (settings : CreationSettings)
    (actions : List (Action σ)) : Stepped seat mode ((Creator.start seat mode settings).history actions).creator := by
  apply history_induction _ actions (motive := fun chronicle => Stepped seat mode chronicle.creator)
  · exact ⟨rfl, rfl, [], by simp, rfl⟩
  · intro chronicle stepped action _
    exact stepped.next action

end Creator

end Hashgraph
