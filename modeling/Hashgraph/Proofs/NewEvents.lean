import Hashgraph.Proofs.Candidates
import Hashgraph.Proofs.Generations
import Hashgraph.Proofs.Liveness

/-! Within the calendar and below the highest generation an attempt never fails, and every event that it makes is
well-formed: signed, young, tracked, above its parents, and built on a childless event of another member that is
childless no more. -/

namespace Hashgraph

namespace Creator

variable {σ : Type}

/-- The events that a next event can name as parents are below the highest generation. -/
structure LowGenerations (creator : Creator) : Prop where
  candidates : ∀ event ∈ creator.childless.events, event.generation < highestGeneration
  last : ∀ event, creator.lastSelfEvent = some event → event.generation < highestGeneration

theorem MayBuildOn.parents {creator : Creator} {other : Option Event} (may : MayBuildOn creator other)
    {motive : EventDescriptor → Prop}
    (candidates : ∀ event ∈ creator.childless.events, motive event.descriptor)
    (last : ∀ event, creator.lastSelfEvent = some event → motive event.descriptor) :
    ∀ parent ∈ creator.lastDescriptor.toList ++ (other.map Event.descriptor).toList, motive parent := by
  have own : ∀ parent ∈ creator.lastDescriptor.toList, motive parent := by
    intro parent named
    rw [Option.mem_toList, lastDescriptor, Option.map_eq_some_iff] at named
    obtain ⟨event, held, rfl⟩ := named
    exact last event held
  intro parent named
  rcases List.mem_append.mp named with selfParent | otherParent
  · exact own parent selfParent
  · cases may with
    | alone _ => exact own parent otherParent
    | @candidate chosen _ listed _ =>
        have same : parent = chosen.descriptor := by simpa using otherParent
        subst same
        exact candidates chosen listed
    | first _ _ _ => simp at otherParent

theorem LowGenerations.parents {creator : Creator} (low : LowGenerations creator) {other : Option Event}
    (may : MayBuildOn creator other) :
    ∀ parent ∈ creator.lastDescriptor.toList ++ (other.map Event.descriptor).toList,
      parent.generation < highestGeneration :=
  may.parents low.candidates low.last

theorem LowGenerations.graded {creator : Creator} (low : LowGenerations creator) {other : Option Event}
    (may : MayBuildOn creator other) : ∃ generation, creator.nextGeneration? other = some generation :=
  exists_nextGeneration (low.parents may)

structure WellFormed (before : Creator) (surroundings : Surroundings σ) (event : Event) (after : Creator) :
    Prop where
  own : event.creator = before.seat.node
  described : event.descriptor = event.content.describe event.generation
  signed : event.signature = surroundings.sign event.hash
  window : after.window = before.window
  young : after.window.isAncient event.descriptor = false
  tracked : (after.ancestry.tipset? event.descriptor).isSome = true
  birthRound : event.birthRound =
    match before.mode with
    | .birthRoundThreshold => before.window.newEventBirthRound
    | .generationThreshold => firstRound
  generation : (event.parents = [] ∧ event.generation = firstGeneration) ∨
    ∃ highest ∈ event.parents, (∀ parent ∈ event.parents, parent.generation ≤ highest.generation) ∧
      event.generation.toNat = highest.generation.toNat + 1
  single : event.otherParents.length ≤ 1
  otherParent : before.seat.roster.size ≠ 1 → ∀ descriptor ∈ event.otherParents,
    ∃ parent ∈ before.childless.events, parent.descriptor = descriptor ∧ Suitable before parent ∧
      before.window.isAncient descriptor = false ∧ parent ∉ after.childless.events
  /-- No other childless event is lost, and none is added. -/
  childless : ∀ other, other ∈ after.childless.events ↔
    other ∈ before.childless.events ∧ other.descriptor ∉ event.otherParents

theorem Extended.mem_childless_iff {before after : Creator} {event : Event} (extended : Extended before event after)
    (stocked : Stocked before) (other : Event) :
    other ∈ after.childless.events ↔
      other ∈ before.childless.events ∧ other.descriptor ∉ event.otherParents := by
  have kept : Stocked after := stocked.own extended.seat extended.ancestry extended.childless
  rw [kept.mem_events_iff, stocked.mem_events_iff, extended.childless, ChildlessEvents.find?_retire]
  split
  · rename_i named
    simp [named]
  · rename_i unnamed
    simp [unnamed]

theorem Made.wellFormed {before after : Creator} {surroundings : Surroundings σ} {now : Instant}
    {other : Option Event} {event : Event} (made : Made before surroundings now other event)
    (extended : Extended before event after) (may : MayBuildOn before other) (stocked : Stocked before)
    (fresh : before.ancestry.Fresh) (sameMode : before.window.mode = before.mode) :
    WellFormed before surroundings event after := by
  have arrived : after.ancestry =
      (before.ancestry.receive before.seat.roster (.own event.descriptor event.parents)).2 := extended.ancestry
  have window : after.window = before.window := by
    rw [Creator.window, arrived]
    exact Ancestry.window_receive _ _ _
  have young := made.young sameMode
  obtain ⟨_, _, _, _, _, content⟩ := made.content
  have graded := made.graded
  rw [nextGeneration?, ← made.parents] at graded
  exact {
    own := made.creator
    described := by rw [content]; rfl
    signed := by rw [content]; rfl
    window := window
    young := by rw [window]; exact young
    tracked := by
      have stored := Ancestry.tipset?_receive before.ancestry before.seat.roster
        (.own event.descriptor event.parents) event.descriptor
      rw [if_pos ⟨rfl, young⟩] at stored
      rw [arrived]
      exact Option.isSome_iff_exists.mpr ⟨_, stored⟩
    birthRound := by rw [content]; rfl
    generation := nextGeneration_cases graded
    single := by
      rw [made.otherParents]
      cases other <;> simp
    otherParent := by
      intro several descriptor named
      rw [made.otherParents] at named
      cases may with
      | alone single => exact absurd single several
      | @candidate parent _ listed _ =>
          have same : descriptor = parent.descriptor := by simpa using named
          subst same
          refine ⟨parent, listed, rfl, stocked.suitable listed, (stocked.suitable listed).young fresh, ?_⟩
          rw [extended.mem_childless_iff stocked, made.otherParents]
          simp
      | first _ _ _ => simp at named
    childless := extended.mem_childless_iff stocked }

/-- In every state that a run with windows of the creator's mode reaches, and with parents below the highest
generation, an attempt within the calendar does not fail, and an event that it makes is well-formed. -/
theorem attempts_make_wellFormed_events (seat : Seat) (mode : AncientMode) (settings : CreationSettings)
    (actions : List (Action σ)) (fits : ∀ window, Action.install window ∈ actions → window.mode = mode)
    (low : LowGenerations ((Creator.start seat mode settings).history actions).creator) :
    let creator := ((Creator.start seat mode settings).history actions).creator
    ∀ (surroundings : Surroundings σ) (now time : Instant) (supply : σ), creator.nextTime? now = some time →
      let attempt := creator.attempt surroundings now supply
      (∃ result, attempt.outcome = .ok result) ∧
        ∀ event, attempt.outcome = .ok (some event) → WellFormed creator surroundings event attempt.creator := by
  intro creator surroundings now time supply timed attempt
  have measured := measured_history seat mode settings actions
  have stocked := stocked_history seat mode settings actions
  have inMode := inMode_history seat mode settings actions fits
  have sameMode : creator.window.mode = creator.mode := inMode.window.trans inMode.own.symm
  constructor
  · rcases attempt_outcome sameMode surroundings timed supply with ⟨other, may, outcome⟩ | ⟨_, outcome⟩
    · obtain ⟨generation, graded⟩ := low.graded may
      exact ⟨_, outcome.trans (outcomeOn_of_graded graded surroundings time supply)⟩
    · exact ⟨_, outcome⟩
  · intro event created
    rcases creator.attempt_cases surroundings now supply with
      ⟨other, new, outcome, may, made, extended⟩ | ⟨refused, _⟩
    · cases created.symm.trans outcome
      exact made.wellFormed extended may stocked measured.fresh sameMode
    · exact absurd created (refused event)

def climbingRun : List (Action Unit) :=
  let first := Ancestry.sampleEvent 1 [] 1 0
  [.attempt silent .epoch (), .register first, .attempt silent .epoch (),
    .register (Ancestry.sampleEvent 2 [first.descriptor] 1 1), .install ⟨4, 5, 1, .generationThreshold⟩]

theorem climbingRun_makes_wellFormed_event :
    let creator := ((Creator.start triadSeat .generationThreshold .default).history climbingRun).creator
    let attempt := creator.attempt silent .epoch ()
    ∃ event, attempt.outcome = .ok (some event) ∧ WellFormed creator silent event attempt.creator ∧
      event.parents.length = 2 ∧ event.generation = 2 ∧ event.birthRound = 1 := by
  have facts :
      let creator := ((Creator.start triadSeat .generationThreshold .default).history climbingRun).creator
      (∀ event ∈ creator.childless.events, event.generation < highestGeneration) ∧
        (∀ event ∈ creator.lastSelfEvent, event.generation < highestGeneration) ∧
        (creator.nextTime? .epoch).isSome = true ∧
        ∃ event ∈ (creator.attempt silent .epoch ()).event?,
          event.parents.length = 2 ∧ event.generation = 2 ∧ event.birthRound = 1 := by
    decide +kernel
  obtain ⟨candidates, last, timed, event, made, parents, generation, birthRound⟩ := facts
  obtain ⟨time, found⟩ := Option.isSome_iff_exists.mp timed
  have created := Attempt.event?_eq_some.mp made
  have sound := attempts_make_wellFormed_events triadSeat .generationThreshold .default climbingRun
    (by simp [climbingRun]) ⟨candidates, last⟩ silent .epoch time () found
  exact ⟨event, created, sound.2 event created, parents, generation, birthRound⟩

end Creator

end Hashgraph
