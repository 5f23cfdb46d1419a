import Mathlib.Data.List.MinMax
import Mathlib.Data.List.Nodup
import Hashgraph.Proofs.Liveness
import Hashgraph.Proofs.SelfChain

/-! Replayed events of the node itself. As long as the node has made no event since it was cleared, the one with the
highest number is its last event, in whatever order they arrive; an event that it has made stays its last one. -/

namespace Hashgraph

namespace Creator

variable {σ : Type}

def ownArrival (creator : Creator) : Action σ → List Event
  | .register event =>
      if event.creator = creator.seat.node ∧ creator.window.isAncient event.descriptor = false then [event] else []
  | _ => []

def replayed : Creator → List (Action σ) → List Event
  | _, [] => []
  | creator, action :: rest => creator.ownArrival action ++ replayed (creator.history [action]).creator rest

/-- A run without a clearing, of a node that holds no own event at first and makes none. Those that it gets have
numbers. -/
structure Replays (creator : Creator) (actions : List (Action σ)) : Prop where
  bare : creator.lastSelfEvent = none
  uncleared : .clear ∉ actions
  uncreated : (creator.history actions).creations = []
  numbered : ∀ event ∈ creator.replayed actions, event.nGen ≠ none

structure IsNewest (events : List Event) (event : Event) : Prop where
  listed : event ∈ events
  highest : ∀ other ∈ events, Tipset.isBelow event.nGen other.nGen = false
  first : ∀ other ∈ events, other.nGen = event.nGen → events.idxOf event ≤ events.idxOf other

instance (events : List Event) (event : Event) : Decidable (IsNewest events event) :=
  decidable_of_iff
    (event ∈ events ∧ (∀ other ∈ events, Tipset.isBelow event.nGen other.nGen = false) ∧
      ∀ other ∈ events, other.nGen = event.nGen → events.idxOf event ≤ events.idxOf other)
    ⟨fun ⟨listed, highest, first⟩ => ⟨listed, highest, first⟩, fun newest =>
      ⟨newest.listed, newest.highest, newest.first⟩⟩

def newestOf (events : List Event) : Option Event := events.argmax fun event => Tipset.height event.nGen

theorem newestOf_eq_some_iff {events : List Event} {event : Event} :
    newestOf events = some event ↔ IsNewest events event := by
  rw [newestOf, ← Option.mem_def, List.mem_argmax_iff]
  constructor
  · rintro ⟨listed, highest, first⟩
    refine ⟨listed, fun other member => (Tipset.isBelow_eq_false_iff _ _).mpr (highest other member), ?_⟩
    exact fun other member same => first other member (Nat.le_of_eq (congrArg Tipset.height same.symm))
  · intro newest
    have highest := fun other member => (Tipset.isBelow_eq_false_iff _ _).mp (newest.highest other member)
    refine ⟨newest.listed, highest, fun other member above => newest.first other member ?_⟩
    exact Tipset.height_injective (Nat.le_antisymm (highest other member) above)

theorem newestOf_concat (events : List Event) (event : Event) :
    newestOf (events ++ [event]) =
      if (newestOf events).all fun last => Tipset.isBelow last.nGen event.nGen then some event
      else newestOf events := by
  rw [newestOf, List.argmax_concat, newestOf]
  cases List.argmax (fun event : Event => Tipset.height event.nGen) events with
  | none => rfl
  | some last => simp only [Option.all_some, Tipset.isBelow_iff]

theorem IsNewest.perm {events others : List Event} {event : Event} (newest : IsNewest events event)
    (same : events.Perm others) (apart : (events.map Event.nGen).Nodup) : IsNewest others event where
  listed := same.mem_iff.mp newest.listed
  highest := fun other member => newest.highest other (same.mem_iff.mpr member)
  first := by
    intro other member equal
    rw [List.inj_on_of_nodup_map apart (same.mem_iff.mpr member) newest.listed equal]

theorem newestOf_perm {events others : List Event} (same : events.Perm others)
    (apart : (events.map Event.nGen).Nodup) : newestOf events = newestOf others := by
  have apartToo : (others.map Event.nGen).Nodup := (same.map Event.nGen).nodup_iff.mp apart
  refine Option.ext fun event => ?_
  rw [newestOf_eq_some_iff, newestOf_eq_some_iff]
  exact ⟨fun newest => newest.perm same apart, fun newest => newest.perm same.symm apartToo⟩

theorem isNewerSelfEvent_eq {creator : Creator} (numbered : ∀ last ∈ creator.lastSelfEvent, last.nGen ≠ none)
    (event : Event) :
    creator.isNewerSelfEvent event =
      creator.lastSelfEvent.all fun last => Tipset.isBelow last.nGen event.nGen := by
  unfold isNewerSelfEvent
  cases held : creator.lastSelfEvent with
  | none => rfl
  | some last =>
      obtain ⟨old, number⟩ := Option.ne_none_iff_exists'.mp (numbered last held)
      cases event.nGen <;> simp [number, Tipset.isBelow]

theorem lastSelfEvent_register (creator : Creator) (event : Event) :
    (creator.register event).lastSelfEvent =
      if (event.creator = creator.seat.node ∧ creator.window.isAncient event.descriptor = false) ∧
          creator.isNewerSelfEvent event = true then some event
      else creator.lastSelfEvent := by
  unfold register
  by_cases young : creator.window.isAncient event.descriptor = false
  · by_cases own : event.creator = creator.seat.node
    · simp only [young, own, creator.seat.member, Bool.not_true, Bool.false_eq_true, if_false, if_true, true_and]
      cases creator.isNewerSelfEvent event <;> rfl
    · cases creator.seat.roster.contains event.creator <;> simp [young, own]
  · simp [young]

theorem lastSelfEvent_next {chronicle : Chronicle} {action : Action σ} {events : List Event}
    (held : chronicle.creator.lastSelfEvent = newestOf events) (numbered : ∀ event ∈ events, event.nGen ≠ none)
    (uncleared : action ≠ .clear) (uncreated : (chronicle.next action).creations = []) :
    (chronicle.next action).creator.lastSelfEvent = newestOf (events ++ chronicle.creator.ownArrival action) := by
  cases action with
  | register event =>
      have lasting : ∀ last ∈ chronicle.creator.lastSelfEvent, last.nGen ≠ none := by
        intro last isLast
        exact numbered last (newestOf_eq_some_iff.mp (held.symm.trans isLast)).listed
      rw [Chronicle.next, lastSelfEvent_register, isNewerSelfEvent_eq lasting, held, ownArrival]
      by_cases arrives : event.creator = chronicle.creator.seat.node ∧
          chronicle.creator.window.isAncient event.descriptor = false
      · rw [if_pos arrives, newestOf_concat]
        simp only [arrives, true_and]
      · rw [if_neg arrives, if_neg fun both => arrives both.1, List.append_nil]
  | install window => simpa [ownArrival, Chronicle.next, setWindow] using held
  | attempt surroundings now supply =>
      rcases chronicle.next_attempt_cases surroundings now supply with
        ⟨_, event, after, result, _⟩ | ⟨after, result, agrees⟩
      · rw [result] at uncreated
        simp at uncreated
      · simpa [result, ownArrival] using agrees.lastSelfEvent.trans held
  | clear => exact absurd rfl uncleared

theorem isSuffix_creations_next (chronicle : Chronicle) {action : Action σ} (uncleared : action ≠ .clear) :
    chronicle.creations <:+ (chronicle.next action).creations := by
  cases action with
  | register event => exact List.suffix_refl _
  | install window => exact List.suffix_refl _
  | attempt surroundings now supply =>
      rcases chronicle.next_attempt_cases surroundings now supply with
        ⟨_, event, after, result, _⟩ | ⟨after, result, _⟩
      · rw [result]
        exact List.suffix_cons _ _
      · rw [result]
  | clear => exact absurd rfl uncleared

theorem replayed_concat (creator : Creator) (actions : List (Action σ)) (action : Action σ) :
    creator.replayed (actions ++ [action]) =
      creator.replayed actions ++ (creator.history actions).creator.ownArrival action := by
  induction actions generalizing creator with
  | nil => simp [replayed, history]
  | cons first rest ih =>
      rw [List.cons_append, replayed, ih, replayed, creator_history_cons creator first rest, List.append_assoc]

theorem Replays.init {creator : Creator} {actions : List (Action σ)} {action : Action σ}
    (replays : Replays creator (actions ++ [action])) : Replays creator actions where
  bare := replays.bare
  uncleared := fun listed => replays.uncleared (List.mem_append_left _ listed)
  uncreated := by
    have uncleared : action ≠ .clear := by
      rintro rfl
      exact replays.uncleared (by simp)
    have kept := isSuffix_creations_next (creator.history actions) uncleared
    rw [← history_concat, replays.uncreated] at kept
    exact List.suffix_nil.mp kept
  numbered := by
    intro event listed
    apply replays.numbered event
    rw [replayed_concat]
    exact List.mem_append_left _ listed

theorem Replays.lastSelfEvent {creator : Creator} {actions : List (Action σ)} (replays : Replays creator actions) :
    (creator.history actions).creator.lastSelfEvent = newestOf (creator.replayed actions) := by
  induction actions using List.reverseRecOn with
  | nil => exact replays.bare
  | append_singleton actions action ih =>
      rw [history_concat, replayed_concat]
      apply lastSelfEvent_next (ih replays.init) replays.init.numbered
      · rintro rfl
        exact replays.uncleared (by simp)
      · rw [← history_concat]
        exact replays.uncreated

/-- Until a node makes an event, its last one is the first of those with the highest number that have arrived. Two
replays of events with different numbers therefore end with the same one, on which the next event is built. An event
that the node has made since it was cleared stays the last one, whatever arrives. -/
theorem replays_end_with_the_newest_event {creator : Creator} {actions : List (Action σ)}
    (replays : Replays creator actions) :
    let last := (creator.history actions).creator.lastSelfEvent
    (∀ event, last = some event ↔ IsNewest (creator.replayed actions) event) ∧
      (∀ (twin : Creator) (others : List (Action σ)), Replays twin others →
        (creator.replayed actions).Perm (twin.replayed others) →
        ((creator.replayed actions).map Event.nGen).Nodup →
        (twin.history others).creator.lastSelfEvent = last) ∧
      (∀ (surroundings : Surroundings σ) (now : Instant) (supply : σ) (event : Event),
        ((creator.history actions).creator.attempt surroundings now supply).outcome = .ok (some event) →
        event.selfParent = last.map Event.descriptor) ∧
      ∀ (more : List (Action σ)), ∀ latest ∈ (creator.history (actions ++ more)).creations.head?, ∀ event,
        ((creator.history (actions ++ more)).creator.register event).lastSelfEvent = some latest.event := by
  intro last
  have newest : last = newestOf (creator.replayed actions) := replays.lastSelfEvent
  refine ⟨?_, ?_, ?_, ?_⟩
  · intro event
    rw [newest, newestOf_eq_some_iff]
  · intro twin others replaysToo same apart
    rw [replaysToo.lastSelfEvent, newest, newestOf_perm same apart]
  · intro surroundings now supply event made
    rcases (creator.history actions).creator.attempt_cases surroundings now supply with
      ⟨_, other, created, _, built, _⟩ | ⟨refused, _⟩
    · cases created.symm.trans made
      exact built.selfParent
    · exact absurd made (refused event)
  · intro more latest isLatest event
    have chained := (chained_history creator (actions ++ more)).register (σ := σ) event
    exact chained.held latest isLatest

def replayRun : List (Action Unit) :=
  [.register (Ancestry.sampleEvent 0 [] 2 3), .attempt silent .epoch (), .register (Ancestry.sampleEvent 1 [] 2 4),
    .register (Ancestry.sampleEvent 0 [] 2 7), .install ⟨1, 2, 2, .birthRoundThreshold⟩,
    .register (Ancestry.sampleEvent 0 [] 1 9), .register (Ancestry.sampleEvent 0 [] 3 5)]

def shuffledRun : List (Action Unit) :=
  [.register (Ancestry.sampleEvent 0 [] 3 5), .register (Ancestry.sampleEvent 0 [] 2 7),
    .register (Ancestry.sampleEvent 0 [] 2 3)]

theorem shuffledRun_ends_like_replayRun :
    let creator := Creator.start triadSeat .birthRoundThreshold .default
    (creator.history replayRun).creator.lastSelfEvent = some (Ancestry.sampleEvent 0 [] 2 7) ∧
      (creator.history shuffledRun).creator.lastSelfEvent = some (Ancestry.sampleEvent 0 [] 2 7) := by
  intro creator
  have facts :
      let creator := Creator.start triadSeat .birthRoundThreshold .default
      (creator.history replayRun).creations.isEmpty ∧ (creator.history shuffledRun).creations.isEmpty ∧
        (∀ event ∈ creator.replayed replayRun, event.nGen ≠ none) ∧
        (creator.replayed replayRun).Perm (creator.replayed shuffledRun) ∧
        ((creator.replayed replayRun).map Event.nGen).Nodup ∧
        IsNewest (creator.replayed replayRun) (Ancestry.sampleEvent 0 [] 2 7) := by
    decide +kernel
  obtain ⟨uncreated, uncreatedToo, numbered, same, apart, newest⟩ := facts
  have replays : Replays creator replayRun :=
    ⟨rfl, by simp [replayRun], List.isEmpty_iff.mp uncreated, numbered⟩
  have replaysToo : Replays creator shuffledRun :=
    ⟨rfl, by simp [shuffledRun], List.isEmpty_iff.mp uncreatedToo,
      fun event listed => numbered event (same.mem_iff.mpr listed)⟩
  obtain ⟨newestLast, orderless, -, -⟩ := replays_end_with_the_newest_event replays
  have last := (newestLast _).mpr newest
  exact ⟨last, (orderless creator shuffledRun replaysToo same apart).trans last⟩

end Creator

end Hashgraph
