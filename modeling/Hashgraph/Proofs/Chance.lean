import Hashgraph.Proofs.Improvement
import Hashgraph.Proofs.NewEvents

/-! Random draws and the anti-selfishness factor decide on which parent an event is built, but never whether an
event is made. -/

namespace Hashgraph

namespace Creator

variable {σ : Type}

def redrawn (creator : Creator) (random : RandomStream) (factor : Float) : Creator :=
  { creator with random := random, factor := factor }

theorem exists_mayBuildOn_iff {creator : Creator} (several : creator.seat.roster.size ≠ 1) :
    (∃ other, MayBuildOn creator other) ↔
      (∃ event ∈ creator.childless.events, (creator.gain event).isNonZero = true) ∨
        (creator.lastSelfEvent = none ∧ creator.window.isGenesis = true) := by
  have starts : creator.mayStart = true ↔ creator.lastSelfEvent = none ∧ creator.window.isGenesis = true := by
    simp [mayStart]
  rw [← starts]
  constructor
  · rintro ⟨other, may⟩
    cases may with
    | alone single => exact absurd single several
    | candidate _ listed gains => exact Or.inl ⟨_, listed, gains⟩
    | first _ allowed _ => exact Or.inr allowed
  · rintro (⟨event, listed, gains⟩ | allowed)
    · exact ⟨some event, .candidate several listed gains⟩
    · by_cases gains : ∃ event ∈ creator.childless.events, (creator.gain event).isNonZero = true
      · obtain ⟨event, listed, gain⟩ := gains
        exact ⟨some event, .candidate several listed gain⟩
      · refine ⟨none, .first several allowed ?_⟩
        intro event listed
        rw [← Bool.not_eq_true]
        exact fun gain => gains ⟨event, listed, gain⟩

theorem mayBuildOn_redrawn (creator : Creator) (random : RandomStream) (factor : Float) (other : Option Event) :
    MayBuildOn (creator.redrawn random factor) other ↔ MayBuildOn creator other := by
  constructor
  · intro may
    cases may with
    | alone single => exact .alone single
    | candidate several listed gains => exact .candidate several listed gains
    | first several allowed idle => exact .first several allowed idle
  · intro may
    cases may with
    | alone single => exact .alone single
    | candidate several listed gains => exact .candidate several listed gains
    | first several allowed idle => exact .first several allowed idle

theorem redrawn_outcome {creator : Creator} (sameMode : creator.window.mode = creator.mode)
    (low : LowGenerations creator) (surroundings : Surroundings σ) {now time : Instant} (timed : creator.nextTime? now = some time) (supply : σ)
    (random : RandomStream) (factor : Float) :
    (∃ other, MayBuildOn creator other ∧
        ((creator.redrawn random factor).attempt surroundings now supply).outcome =
          .ok (if creator.window.isAncient (creator.nextEvent surroundings time supply other).descriptor then none
            else some (creator.nextEvent surroundings time supply other))) ∨
      ((∀ other, ¬MayBuildOn creator other) ∧
        ((creator.redrawn random factor).attempt surroundings now supply).outcome = .ok none) := by
  simp only [← mayBuildOn_redrawn creator random factor]
  have sameModeRedrawn : (creator.redrawn random factor).window.mode = (creator.redrawn random factor).mode :=
    sameMode
  rcases attempt_outcome sameModeRedrawn surroundings timed supply with ⟨other, may, outcome⟩ | nothing
  · obtain ⟨generation, graded⟩ := low.graded ((mayBuildOn_redrawn creator random factor other).mp may)
    exact Or.inl ⟨other, may, outcome.trans (outcomeOn_of_graded graded surroundings time supply)⟩
  · exact Or.inr nothing

theorem redrawn_creates {creator : Creator} (sameMode : creator.window.mode = creator.mode)
    (low : LowGenerations creator) (surroundings : Surroundings σ) {now time : Instant} (timed : creator.nextTime? now = some time) (supply : σ)
    (alike : ∀ a b, MayBuildOn creator a → MayBuildOn creator b →
      creator.window.isAncient (creator.nextEvent surroundings time supply a).descriptor =
        creator.window.isAncient (creator.nextEvent surroundings time supply b).descriptor) :
    ∃ created : Bool,
      (∀ random factor, ((creator.redrawn random factor).attempt surroundings now supply).outcome.map
        Option.isSome = .ok created) ∧
      (created = true ↔ (∃ other, MayBuildOn creator other) ∧ ∀ other, MayBuildOn creator other →
        creator.window.isAncient (creator.nextEvent surroundings time supply other).descriptor = false) := by
  have drawn := redrawn_outcome sameMode low surroundings timed supply
  by_cases possible : ∃ other, MayBuildOn creator other
  · -- One event that can be made stands for all of them.
    obtain ⟨sample, may⟩ := possible
    refine ⟨!creator.window.isAncient (creator.nextEvent surroundings time supply sample).descriptor, ?_, ?_⟩
    · intro random factor
      rcases drawn random factor with ⟨other, mayToo, result⟩ | ⟨nobody, _⟩
      · rw [result, alike other sample mayToo may]
        cases creator.window.isAncient (creator.nextEvent surroundings time supply sample).descriptor <;> rfl
      · exact absurd may (nobody sample)
    · rw [Bool.not_eq_true']
      constructor
      · exact fun young => ⟨⟨sample, may⟩, fun other mayToo => (alike other sample mayToo may).trans young⟩
      · exact fun all => all.2 sample may
  · refine ⟨false, ?_, by simp [possible]⟩
    intro random factor
    rcases drawn random factor with ⟨other, may, _⟩ | ⟨_, result⟩
    · exact absurd ⟨other, may⟩ possible
    · rw [result]
      rfl

theorem nextAncient_of_mayBuildOn {creator : Creator} (sameMode : creator.window.mode = creator.mode)
    (low : LowGenerations creator) (surroundings : Surroundings σ) (time : Instant) (supply : σ)
    {other : Option Event} (may : MayBuildOn creator other) :
    creator.nextAncient? other =
      some (creator.window.isAncient (creator.nextEvent surroundings time supply other).descriptor) := by
  obtain ⟨generation, graded⟩ := low.graded may
  rw [nextAncient_of_graded graded, nextEvent, graded, Option.getD_some]
  exact congrArg some (isAncient_nextContent sameMode _ _ _ _).symm

theorem nextAncients_agree {creator : Creator} (several : creator.seat.roster.size ≠ 1)
    (stocked : Stocked creator) (fresh : creator.ancestry.Fresh)
    (sameMode : creator.window.mode = creator.mode) (low : LowGenerations creator) {a b : Option Event}
    (mayA : MayBuildOn creator a) (mayB : MayBuildOn creator b) :
    creator.nextAncient? a = creator.nextAncient? b := by
  cases mode : creator.mode with
  | birthRoundThreshold =>
      obtain ⟨_, gradedA⟩ := low.graded mayA
      obtain ⟨_, gradedB⟩ := low.graded mayB
      simp only [nextAncient_of_graded gradedA, nextAncient_of_graded gradedB, nextIndicator, mode]
  | generationThreshold =>
      -- Candidates are tracked and so not ancient, and the new event lies above its parents.
      have young : ∀ parent ∈ creator.childless.events, MayBuildOn creator (some parent) →
          creator.nextAncient? (some parent) = some false := by
        intro parent listed may
        obtain ⟨generation, graded⟩ := low.graded may
        rw [nextAncient_of_graded graded, nextIndicator_young sameMode mode ((stocked.suitable listed).young fresh) graded]
      cases mayA with
      | alone single => exact absurd single several
      | @candidate first _ listed gains =>
          cases mayB with
          | alone single => exact absurd single several
          | @candidate second _ listedToo gainsToo =>
              exact (young first listed (.candidate several listed gains)).trans
                (young second listedToo (.candidate several listedToo gainsToo)).symm
          | first _ _ idle =>
              rw [idle first listed] at gains
              exact Bool.noConfusion gains
      | first _ _ idle =>
          cases mayB with
          | alone single => exact absurd single several
          | @candidate second _ listed gains =>
              rw [idle second listed] at gains
              exact Bool.noConfusion gains
          | first _ _ _ => rfl

theorem event_ages_agree {creator : Creator} (several : creator.seat.roster.size ≠ 1)
    (stocked : Stocked creator) (fresh : creator.ancestry.Fresh)
    (sameMode : creator.window.mode = creator.mode) (low : LowGenerations creator)
    (surroundings : Surroundings σ) (time : Instant) (supply : σ) {a b : Option Event}
    (mayA : MayBuildOn creator a) (mayB : MayBuildOn creator b) :
    creator.window.isAncient (creator.nextEvent surroundings time supply a).descriptor =
      creator.window.isAncient (creator.nextEvent surroundings time supply b).descriptor := by
  have agree := nextAncients_agree several stocked fresh sameMode low mayA mayB
  rw [nextAncient_of_mayBuildOn sameMode low surroundings time supply mayA,
    nextAncient_of_mayBuildOn sameMode low surroundings time supply mayB] at agree
  exact Option.some_inj.mp agree

/-- In every state that a run with windows of the creator's mode reaches, over a roster of at least two members
and with parents below the highest generation: an attempt within the calendar makes one of the events that can be
made, or none, and all random streams and factors make an event or all make none. They do if some childless event
is a gain, or if the node has no event yet in a genesis window, and the event is not ancient; that is the same
for every event that can be made. -/
theorem creation_is_no_matter_of_chance (seat : Seat) (mode : AncientMode) (settings : CreationSettings)
    (actions : List (Action σ)) (fits : ∀ window, Action.install window ∈ actions → window.mode = mode)
    (several : 2 ≤ seat.roster.size)
    (low : LowGenerations ((Creator.start seat mode settings).history actions).creator) :
    let creator := ((Creator.start seat mode settings).history actions).creator
    ∀ (surroundings : Surroundings σ) (now time : Instant) (supply : σ), creator.nextTime? now = some time →
      let event := creator.nextEvent surroundings time supply
      let outcome := fun (random : RandomStream) (factor : Float) =>
        ((creator.redrawn random factor).attempt surroundings now supply).outcome
      (∀ random factor made, outcome random factor = .ok (some made) →
        ∃ other, MayBuildOn creator other ∧ made = event other) ∧
      (∀ a b, MayBuildOn creator a → MayBuildOn creator b →
        creator.window.isAncient (event a).descriptor = creator.window.isAncient (event b).descriptor) ∧
      ∃ created : Bool,
        (∀ random factor, (outcome random factor).map Option.isSome = .ok created) ∧
        (created = true ↔
          ((∃ candidate ∈ creator.childless.events, (creator.gain candidate).isNonZero = true) ∨
            (creator.lastSelfEvent = none ∧ creator.window.isGenesis = true)) ∧
          ∀ other, MayBuildOn creator other → creator.window.isAncient (event other).descriptor = false) := by
  intro creator surroundings now time supply timed event outcome
  have measured := measured_history seat mode settings actions
  have stocked := stocked_history seat mode settings actions
  have inMode := inMode_history seat mode settings actions fits
  have sameMode : creator.window.mode = creator.mode := inMode.window.trans inMode.own.symm
  have members : creator.seat.roster.size ≠ 1 := by
    rw [show creator.seat = seat from measured.seated]
    omega
  have alike : ∀ a b, MayBuildOn creator a → MayBuildOn creator b →
      creator.window.isAncient (event a).descriptor = creator.window.isAncient (event b).descriptor :=
    fun a b => event_ages_agree members stocked measured.fresh sameMode low surroundings time supply
  refine ⟨?_, alike, ?_⟩
  · intro random factor made equal
    rcases redrawn_outcome sameMode low surroundings timed supply random factor with
      ⟨other, may, result⟩ | ⟨_, result⟩
    · refine ⟨other, may, ?_⟩
      have same := result.symm.trans equal
      split at same
      · simp at same
      · simpa using same.symm
    · simpa using result.symm.trans equal
  · rw [← exists_mayBuildOn_iff members]
    exact redrawn_creates sameMode low surroundings timed supply alike

/-- Pity chooses the event of member 3 and weight that of member 1, but every draw makes an event. -/
theorem ignoringRun_creates_by_pity_and_by_weight :
    let creator := ((Creator.start quartetSeat .birthRoundThreshold .default).history ignoringRun).creator
    (∃ event, ((creator.redrawn (.ofSeed 1) 1.0).attempt silent .epoch ()).outcome = .ok (some event) ∧
        event.otherParents.map EventDescriptor.creator = [⟨3⟩]) ∧
      (∃ event, ((creator.redrawn (.ofSeed 1) 1000000.0).attempt silent .epoch ()).outcome = .ok (some event) ∧
        event.otherParents.map EventDescriptor.creator = [⟨1⟩]) ∧
      ∀ random factor,
        ((creator.redrawn random factor).attempt silent .epoch ()).outcome.map Option.isSome = .ok true := by
  have facts :
      let creator := ((Creator.start quartetSeat .birthRoundThreshold .default).history ignoringRun).creator
      (∀ event ∈ creator.childless.events, event.generation < highestGeneration) ∧
        (∀ event ∈ creator.lastSelfEvent, event.generation < highestGeneration) ∧
        (creator.nextTime? .epoch).isSome = true ∧
        (∃ event ∈ ((creator.redrawn (.ofSeed 1) 1.0).attempt silent .epoch ()).event?,
          event.otherParents.map EventDescriptor.creator = [⟨3⟩]) ∧
        (∃ event ∈ ((creator.redrawn (.ofSeed 1) 1000000.0).attempt silent .epoch ()).event?,
          event.otherParents.map EventDescriptor.creator = [⟨1⟩]) := by
    decide +kernel
  obtain ⟨candidates, last, timed, ⟨pitied, madePitied, ignored⟩, weighed, madeWeighed, heavy⟩ := facts
  obtain ⟨time, found⟩ := Option.isSome_iff_exists.mp timed
  have createdPitied := Attempt.event?_eq_some.mp madePitied
  have createdWeighed := Attempt.event?_eq_some.mp madeWeighed
  obtain ⟨_, _, created, all, _⟩ := creation_is_no_matter_of_chance quartetSeat .birthRoundThreshold .default
    ignoringRun (by simp [ignoringRun]) (by decide) ⟨candidates, last⟩ silent .epoch time () found
  have sample := all (.ofSeed 1) 1.0
  beta_reduce at sample
  rw [createdPitied] at sample
  cases sample
  exact ⟨⟨pitied, createdPitied, ignored⟩, ⟨weighed, createdWeighed, heavy⟩, all⟩

end Creator

end Hashgraph
