import Hashgraph.Proofs.LegalCandidates

/-! The order of generations. An event lies above its parents and is young with any of them, so that no creator refuses
a chosen parent as ancient. On a parent of the highest generation there is no event at all: the attempt stops. -/

namespace Hashgraph

namespace Creator

variable {σ : Type}

theorem follow_of_parent (creator : Creator) {choice : ParentChoice} {parent : Event}
    (chosen : choice.parent? = some parent) (surroundings : Surroundings σ) (now : Instant) (supply : σ) :
    ∃ change : CreationCounters → CreationCounters,
      (∀ counters, (change counters).refusedAncient = counters.refusedAncient) ∧
        creator.follow surroundings now supply choice =
          Attempt.whenCreated (creator.build surroundings now supply (some parent)) change := by
  cases choice with
  | pity event =>
      cases chosen
      exact ⟨(·.recordPityParent parent.creator), fun _ => rfl, rfl⟩
  | best event =>
      cases chosen
      exact ⟨(·.recordBestParent parent.creator), fun _ => rfl, rfl⟩
  | nothing => cases chosen

theorem Built.unrefused {creator : Creator} {surroundings : Surroundings σ} {now : Instant} {other : Option Event}
    {attempt : Attempt σ} (built : Built creator surroundings now other attempt)
    (young : creator.nextAncient? other ≠ some true) {change : CreationCounters → CreationCounters}
    (keeps : ∀ counters, (change counters).refusedAncient = counters.refusedAncient) :
    let finished := Attempt.whenCreated attempt change
    finished.outcome ≠ .ok none ∧
      finished.creator.counters.refusedAncient = creator.counters.refusedAncient ∧
      (creator.nextGeneration? other = none → finished.outcome = .error .outOfRange) := by
  intro finished
  cases built with
  | exhausted _ stopped _ same => simp [finished, Attempt.whenCreated, stopped, same]
  | ancient ancient _ _ _ => exact absurd ancient young
  | failed fault fresh failed _ same =>
      have graded : creator.nextGeneration? other ≠ none := fun exhausted => by
        simp [nextAncient?, exhausted] at fresh
      simp [finished, Attempt.whenCreated, failed, same, graded]
  | made event ratio made created _ counted =>
      obtain ⟨_, _, generation, _, graded, _⟩ := made.content
      simp [finished, Attempt.whenCreated, created, counted, keeps, graded, CreationCounters.recordCreated]

theorem attempt_unrefused {creator : Creator} (several : creator.seat.roster.size ≠ 1)
    (generations : creator.mode = .generationThreshold) (sameMode : creator.window.mode = creator.mode)
    {parent : Event} (chosen : (creator.chooseParent creator.random).1.parent? = some parent)
    (young : creator.window.isAncient parent.descriptor = false) (surroundings : Surroundings σ) (now : Instant)
    (supply : σ) :
    let attempt := creator.attempt surroundings now supply
    attempt.outcome ≠ .ok none ∧ attempt.creator.stats.refusedAncient = creator.stats.refusedAncient ∧
      ((∃ named ∈ creator.lastDescriptor.toList ++ [parent.descriptor], named.generation = highestGeneration) →
        attempt.outcome = .error .outOfRange) := by
  intro attempt
  have fresh : creator.nextAncient? (some parent) ≠ some true := by
    intro ancient
    obtain ⟨generation, graded, old⟩ := Option.map_eq_some_iff.mp ancient
    exact Bool.false_ne_true ((nextIndicator_young sameMode generations young graded).symm.trans old)
  obtain ⟨change, keeps, followed⟩ := creator.drawn.follow_of_parent chosen surroundings now supply
  have unrefused := (creator.drawn.build_built surroundings now supply (some parent)).unrefused fresh keeps
  simp only [← followed, ← attempt_of_several several] at unrefused
  obtain ⟨made, counted, stopped⟩ := unrefused
  exact ⟨made, counted, fun top => stopped (nextGeneration?_eq_none_iff.mpr top)⟩

/-- An event lies above all its parents, and it can be built unless one of them has the highest generation. Under a
window that goes by generations an event with a young parent is young. And a creator among others, in every state
that a run with such windows reaches, never refuses an event with a chosen parent as ancient; it stops if that
parent or its own last event has the highest generation. -/
theorem events_rise_while_a_generation_is_left :
    (∀ (content : EventContent) (sign : EventHash → Signature),
      (∀ event, Event.ofContent? content sign = some event →
        ∀ parent ∈ content.parents, parent.generation < event.generation) ∧
        (Event.ofContent? content sign = none ↔
          ∃ parent ∈ content.parents, parent.generation = highestGeneration)) ∧
      (∀ (window : EventWindow) (content : EventContent) (sign : EventHash → Signature) (event : Event),
        window.mode = .generationThreshold → Event.ofContent? content sign = some event →
          (∃ parent ∈ content.parents, window.isAncient parent = false) →
            window.isAncient event.descriptor = false) ∧
      ∀ (seat : Seat) (settings : CreationSettings) (actions : List (Action σ)), 2 ≤ seat.roster.size →
        (∀ window, Action.install window ∈ actions → window.mode = .generationThreshold) →
          let creator := ((start seat .generationThreshold settings).history actions).creator
          ∀ parent, (creator.chooseParent creator.random).1.parent? = some parent →
            ∀ (surroundings : Surroundings σ) (now : Instant) (supply : σ),
              let attempt := creator.attempt surroundings now supply
              attempt.outcome ≠ .ok none ∧ attempt.creator.stats.refusedAncient = creator.stats.refusedAncient ∧
                ((∃ named ∈ creator.lastDescriptor.toList ++ [parent.descriptor],
                  named.generation = highestGeneration) → attempt.outcome = .error .outOfRange) := by
  refine ⟨?_, ?_, ?_⟩
  · intro content sign
    refine ⟨?_, Option.map_eq_none_iff.trans nextGeneration?_eq_none_iff⟩
    intro event built parent named
    obtain ⟨generation, graded, rfl⟩ := Option.map_eq_some_iff.mp built
    exact generation_lt_nextGeneration graded named
  · rintro window content sign event generations built ⟨parent, named, young⟩
    obtain ⟨generation, graded, rfl⟩ := Option.map_eq_some_iff.mp built
    rw [EventWindow.isAncient, generations]
    exact young_behind generations named young graded
  · intro seat settings actions several fits creator parent chosen
    have seated : creator.seat = seat := (stepped_history seat .generationThreshold settings actions).seated
    have inMode : InMode .generationThreshold creator := inMode_history seat .generationThreshold settings actions fits
    have legal := legal_history seat .generationThreshold settings actions parent (chooseParent_some chosen).1
    apply attempt_unrefused _ inMode.own (inMode.window.trans inMode.own.symm) chosen legal.2.2.1
    rw [seated]
    omega

def crestRun : List (Action Unit) :=
  [.attempt silent .epoch (), .install ⟨1, 2, 5, .generationThreshold⟩, .register crestEvent]

def seventhContent : EventContent := ⟨⟨0⟩, none, [⟨⟨1⟩, 1, 7, .zero⟩], 2, .epoch, []⟩

theorem crestRun_stops_on_its_parent :
    let creator := ((start triadSeat .generationThreshold .default).history crestRun).creator
    let attempt := creator.attempt silent .epoch ()
    (creator.chooseParent creator.random).1.parent? = some crestEvent ∧
      attempt.outcome = .error .outOfRange ∧ attempt.creator.stats.refusedAncient = creator.stats.refusedAncient ∧
      ∃ event, Event.ofContent? seventhContent silent.sign = some event ∧ 7 < event.generation ∧
        EventWindow.isAncient ⟨1, 2, 5, .generationThreshold⟩ event.descriptor = false := by
  have facts :
      let creator := ((start triadSeat .generationThreshold .default).history crestRun).creator
      (creator.chooseParent creator.random).1.parent? = some crestEvent ∧
        ∃ named ∈ creator.lastDescriptor.toList ++ [crestEvent.descriptor], named.generation = highestGeneration := by
    decide +kernel
  obtain ⟨rises, ages, attempts⟩ := events_rise_while_a_generation_is_left (σ := Unit)
  obtain ⟨chosen, top⟩ := facts
  have attempted := attempts triadSeat .default crestRun (by decide) (by simp [crestRun]) crestEvent chosen silent
    .epoch ()
  obtain ⟨_, uncounted, stopped⟩ := attempted
  obtain ⟨above, exhausted⟩ := rises seventhContent silent.sign
  obtain ⟨event, built⟩ : ∃ event, Event.ofContent? seventhContent silent.sign = some event := by
    rw [← Option.ne_none_iff_exists', Ne, exhausted]
    decide
  refine ⟨chosen, stopped top, uncounted, event, built, above event built _ (List.mem_singleton_self _), ?_⟩
  exact ages _ seventhContent silent.sign event rfl built ⟨_, List.mem_singleton_self _, by decide⟩

def contentBehindCrest : EventContent := { seventhContent with otherParents := [crestEvent.descriptor] }

/-- There is no event on a parent of the highest generation, and a creator that has chosen such a parent stops. -/
theorem no_event_behind_the_highest_generation :
    (¬∀ (content : EventContent) (sign : EventHash → Signature),
      ∃ event, Event.ofContent? content sign = some event ∧
        ∀ parent ∈ content.parents, parent.generation < event.generation) ∧
      let creator := ((start triadSeat .generationThreshold .default).history crestRun).creator
      (creator.chooseParent creator.random).1.parent? = some crestEvent ∧
        (creator.attempt silent .epoch ()).outcome = .error .outOfRange := by
  refine ⟨?_, by decide +kernel⟩
  intro claimed
  obtain ⟨event, built, _⟩ := claimed contentBehindCrest silent.sign
  have missing : Event.ofContent? contentBehindCrest silent.sign = none := by decide +kernel
  cases missing.symm.trans built

end Creator

end Hashgraph
