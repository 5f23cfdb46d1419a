import Hashgraph.Proofs.Liveness
import Hashgraph.Node.TransactionPool

/-! Attempts that lead to no event. They leave everything as it was but the random state and the counters, and
take no transactions unless the window is in another mode than the creator: then an event that is young in the
creator's mode can be ancient under the window, which is found out behind the taking of its transactions. -/

namespace Hashgraph

namespace Creator

variable {σ : Type}

structure Spends (creator : Creator) (surroundings : Surroundings σ) (supply : σ) (attempt : Attempt σ) : Prop where
  created : ∀ event, attempt.outcome = .ok (some event) →
    event.transactions = (surroundings.take supply).1 ∧ attempt.supply = (surroundings.take supply).2
  refused : attempt.outcome = .ok none → attempt.supply = supply
  halted : attempt.outcome = .error .outOfRange → attempt.supply = supply
  untracked : ∀ descriptor, attempt.outcome = .error (.untracked descriptor) →
    attempt.supply = (surroundings.take supply).2 ∧
      creator.window.isAncientIndicator (creator.mode.indicator descriptor) = false ∧
      creator.window.isAncient descriptor = true

theorem Spends.agrees {before after : Creator} {surroundings : Surroundings σ} {supply : σ} {attempt : Attempt σ}
    (spends : Spends after surroundings supply attempt) (same : Agrees before after) :
    Spends before surroundings supply attempt where
  created := spends.created
  refused := spends.refused
  halted := spends.halted
  untracked := by
    have untracked := spends.untracked
    simp only [window, same.mode, same.ancestry] at untracked
    exact untracked

theorem Spends.nothing {creator after : Creator} {surroundings : Surroundings σ} {supply : σ} :
    Spends creator surroundings supply ⟨.ok none, after, supply⟩ := by
  constructor <;> simp

theorem Spends.halt {creator after : Creator} {surroundings : Surroundings σ} {supply : σ} :
    Spends creator surroundings supply ⟨.error .outOfRange, after, supply⟩ := by
  constructor <;> simp

theorem Spends.whenCreated {creator : Creator} {surroundings : Surroundings σ} {supply : σ} {attempt : Attempt σ}
    (spends : Spends creator surroundings supply attempt) (change : CreationCounters → CreationCounters) :
    Spends creator surroundings supply (Attempt.whenCreated attempt change) := by
  unfold Attempt.whenCreated
  split
  · exact ⟨spends.created, spends.refused, spends.halted, spends.untracked⟩
  · exact spends

theorem supply_commit (creator : Creator) (supply : σ) (event : Event) :
    (creator.commit supply event).supply = supply := by
  simp only [commit]
  split <;> rfl

theorem commit_eq_error {creator : Creator} {supply : σ} {event : Event} {fault : CreationError}
    (failed : (creator.commit supply event).outcome = .error fault) :
    fault = .untracked event.descriptor ∧ creator.window.isAncient event.descriptor = true := by
  simp only [commit] at failed
  split at failed
  · rename_i missing
    cases failed
    refine ⟨rfl, ?_⟩
    have unknown := Option.map_eq_none_iff.mp missing
    simp only [Ancestry.addSelfEvent, Ancestry.tipset?_store, true_and] at unknown
    rw [← Bool.not_eq_false]
    intro young
    change creator.ancestry.window.isAncient event.descriptor = false at young
    simp [young] at unknown
  · cases failed

theorem build_spends (creator : Creator) (surroundings : Surroundings σ) (now : Instant) (supply : σ)
    (other : Option Event) : Spends creator surroundings supply (creator.build surroundings now supply other) := by
  cases graded : creator.nextGeneration? other with
  | none =>
      rw [build_of_exhausted graded]
      exact .halt
  | some generation =>
  rw [build_of_graded graded]
  split
  · exact .nothing
  rename_i young
  split
  · exact .halt
  rename_i time timed
  generalize planned : Event.ofContent _ generation surroundings.sign = event
  have content : event = Event.ofContent
      (creator.nextContent (other.map Event.descriptor).toList time (surroundings.take supply).1)
      generation surroundings.sign := planned.symm
  constructor
  · intro made created
    rcases creator.commit_cases (surroundings.take supply).2 event with ⟨outcome, _⟩ | ⟨⟨fault, failed⟩, _, _⟩
    · cases created.symm.trans outcome
      exact ⟨by rw [content]; rfl, supply_commit _ _ _⟩
    · cases created.symm.trans failed
  · intro refused
    rcases creator.commit_cases (surroundings.take supply).2 event with ⟨outcome, _⟩ | ⟨⟨fault, failed⟩, _, _⟩
    · cases refused.symm.trans outcome
    · cases refused.symm.trans failed
  · intro stopped
    cases (commit_eq_error stopped).1
  · intro descriptor untracked
    obtain ⟨same, ancient⟩ := commit_eq_error untracked
    cases same
    refine ⟨supply_commit _ _ _, ?_, ancient⟩
    have indicator : creator.mode.indicator event.descriptor = creator.nextIndicator generation := by
      rw [content, nextIndicator]
      cases creator.mode <;> rfl
    rw [indicator]
    simpa using young

theorem follow_spends (creator : Creator) (surroundings : Surroundings σ) (now : Instant) (supply : σ)
    (choice : ParentChoice) :
    Spends creator surroundings supply (creator.follow surroundings now supply choice) := by
  cases choice with
  | pity parent =>
      exact (creator.build_spends surroundings now supply (some parent)).whenCreated (·.recordPityParent parent.creator)
  | best parent =>
      exact (creator.build_spends surroundings now supply (some parent)).whenCreated (·.recordBestParent parent.creator)
  | nothing =>
      simp only [follow]
      split
      · exact creator.build_spends surroundings now supply none
      · exact .nothing

theorem attempt_spends (creator : Creator) (surroundings : Surroundings σ) (now : Instant) (supply : σ) :
    Spends creator surroundings supply (creator.attempt surroundings now supply) := by
  unfold attempt
  split
  · exact creator.build_spends surroundings now supply creator.lastSelfEvent
  · apply (follow_spends _ surroundings now supply _).agrees
    exact ⟨rfl, rfl, rfl, rfl, rfl, rfl, rfl⟩

theorem Spends.fault_of_sameMode {creator : Creator} {surroundings : Surroundings σ} {supply : σ}
    {attempt : Attempt σ} (spends : Spends creator surroundings supply attempt)
    (sameMode : creator.window.mode = creator.mode) {fault : CreationError}
    (failed : attempt.outcome = .error fault) : fault = .outOfRange := by
  cases fault with
  | outOfRange => rfl
  | untracked descriptor =>
      obtain ⟨_, young, ancient⟩ := spends.untracked descriptor failed
      rw [EventWindow.isAncient, sameMode, young] at ancient
      cases ancient

theorem Spends.kept_of_sameMode {creator : Creator} {surroundings : Surroundings σ} {supply : σ}
    {attempt : Attempt σ} (spends : Spends creator surroundings supply attempt)
    (sameMode : creator.window.mode = creator.mode) (eventless : attempt.event? = none) :
    attempt.supply = supply := by
  cases outcome : attempt.outcome with
  | ok result =>
      cases result with
      | none => exact spends.refused outcome
      | some event => simp [Attempt.event?, outcome, Except.toOption] at eventless
  | error fault =>
      cases spends.fault_of_sameMode sameMode outcome
      exact spends.halted outcome

/-- An attempt without an event leaves all but the random state and the counters as it was. It leaves the supply
too, unless it fails because its event is untracked; then the event is young in the creator's mode and ancient
under a window of the other mode, and its transactions are lost. -/
theorem attempts_without_event_leave_the_state_alone (creator : Creator) (surroundings : Surroundings σ)
    (now : Instant) (supply : σ) (eventless : (creator.attempt surroundings now supply).event? = none) :
    let attempt := creator.attempt surroundings now supply
    Agrees creator attempt.creator ∧ (creator.window.mode = creator.mode → attempt.supply = supply) ∧
      ((attempt.outcome = .ok none ∨ attempt.outcome = .error .outOfRange) ∧ attempt.supply = supply ∨
        ∃ descriptor, attempt.outcome = .error (.untracked descriptor) ∧
          attempt.supply = (surroundings.take supply).2 ∧
          creator.window.isAncientIndicator (creator.mode.indicator descriptor) = false ∧
          creator.window.isAncient descriptor = true) := by
  intro attempt
  have spends : Spends creator surroundings supply attempt := creator.attempt_spends surroundings now supply
  have unchanged : Agrees creator attempt.creator := by
    rcases creator.attempt_cases surroundings now supply with ⟨_, event, created, _⟩ | ⟨_, agrees⟩
    · rw [Attempt.event?_eq_some.mpr created] at eventless
      cases eventless
    · exact agrees
  refine ⟨unchanged, fun sameMode => spends.kept_of_sameMode sameMode eventless, ?_⟩
  cases outcome : attempt.outcome with
  | ok result =>
      cases result with
      | none => exact Or.inl ⟨Or.inl rfl, spends.refused outcome⟩
      | some event =>
          have created : attempt.event? = some event := Attempt.event?_eq_some.mpr outcome
          cases created.symm.trans eventless
  | error fault =>
      cases fault with
      | outOfRange => exact Or.inl ⟨Or.inr rfl, spends.halted outcome⟩
      | untracked descriptor => exact Or.inr ⟨descriptor, rfl, spends.untracked descriptor outcome⟩

def strayCreator : Creator :=
  ((Creator.start triadSeat .birthRoundThreshold .default).history
    [(.install ⟨0, 1, 1, .generationThreshold⟩ : Action TransactionPool)]).creator

def poolSurroundings : Surroundings TransactionPool := ⟨fun _ => .absent, TransactionPool.drain 100⟩

theorem strayCreator_fails_and_stays :
    let attempt := strayCreator.attempt poolSurroundings .epoch ⟨[⟨[7]⟩]⟩
    Agrees strayCreator attempt.creator ∧ attempt.supply = .empty ∧
      ∃ descriptor, attempt.outcome = .error (.untracked descriptor) ∧ descriptor.generation = 0 := by
  have facts :
      let attempt := strayCreator.attempt poolSurroundings .epoch ⟨[⟨[7]⟩]⟩
      attempt.event? = none ∧ attempt.supply = .empty ∧ .empty ≠ (⟨[⟨[7]⟩]⟩ : TransactionPool) ∧
        strayCreator.window = ⟨0, 1, 1, .generationThreshold⟩ := by
    decide +kernel
  obtain ⟨eventless, spent, different, window⟩ := facts
  have result := attempts_without_event_leave_the_state_alone strayCreator poolSurroundings .epoch _ eventless
  refine ⟨result.1, spent, ?_⟩
  rcases result.2.2 with ⟨_, kept⟩ | ⟨descriptor, outcome, _, _, ancient⟩
  · exact absurd (spent.symm.trans kept) different
  · refine ⟨descriptor, outcome, ?_⟩
    rw [window] at ancient
    simpa [EventWindow.isAncient, EventWindow.isAncientIndicator, AncientMode.indicator] using ancient

/-- Windows of either mode are accepted, and under one of the other mode a failed attempt takes transactions. -/
theorem failed_attempts_take_transactions :
    ¬∀ actions : List (Action TransactionPool),
      (∀ window, .install window ∈ actions →
        EventWindow.ofParts window.latestConsensusRound window.newEventBirthRound window.ancientThreshold
          window.mode = .ok window) →
        let creator := ((Creator.start triadSeat .birthRoundThreshold .default).history actions).creator
        ∀ (surroundings : Surroundings TransactionPool) (now : Instant) (supply : TransactionPool),
          (creator.attempt surroundings now supply).event? = none →
            (creator.attempt surroundings now supply).supply = supply := by
  intro claimed
  have facts :
      (strayCreator.attempt poolSurroundings .epoch ⟨[⟨[7]⟩]⟩).event? = none ∧
        (strayCreator.attempt poolSurroundings .epoch ⟨[⟨[7]⟩]⟩).supply ≠ ⟨[⟨[7]⟩]⟩ := by
    decide +kernel
  refine facts.2 (claimed [.install ⟨0, 1, 1, .generationThreshold⟩] ?_ poolSurroundings .epoch _ facts.1)
  intro window listed
  cases List.mem_singleton.mp listed
  rfl

end Creator

end Hashgraph
