import Hashgraph.Proofs.Accumulator

/-! The improvement of a new event is the one that was expected of its other-parent before, whether or not the
self-parent was still tracked, and it is never zero. -/

namespace Hashgraph

theorem Progress.improvement_of_record? {progress : Progress} {seat : Seat} {ancestry : Ancestry}
    {childless : ChildlessEvents} {descriptor : EventDescriptor} {step : Step} {tipset : Tipset}
    (found : progress.record? seat ancestry childless descriptor = some step)
    (known : ancestry.tipset? descriptor = some tipset) :
    step.improvement =
      (Tipset.advancement seat.roster seat.node progress.snapshot tipset).minus progress.previous := by
  rw [record?, known, Option.map_some, Option.some.injEq] at found
  subst found
  simp only
  split <;> rfl

namespace Creator

variable {σ : Type}

/-- Parents in another order, with the node itself left out, measure the same. -/
theorem advancement_of_own_event {creator : Creator} {event : Event} {parent : EventDescriptor}
    (own : event.descriptor.creator = creator.seat.node)
    (parents : event.parents = creator.lastDescriptor.toList ++ [parent]) :
    Tipset.advancement creator.seat.roster creator.seat.node creator.progress.snapshot
        (creator.ancestry.addSelfEvent creator.seat.roster event.descriptor event.parents).1 =
      Tipset.advancement creator.seat.roster creator.seat.node creator.progress.snapshot
        (creator.ancestry.mergedParents creator.seat.roster (parent :: creator.lastDescriptor.toList)) := by
  have reordered : event.parents.Perm (parent :: creator.lastDescriptor.toList) := by
    rw [parents]
    exact List.perm_append_comm
  apply Tipset.advancement_congr
  intro node different
  calc (creator.ancestry.addSelfEvent creator.seat.roster event.descriptor event.parents).1.tip
          creator.seat.roster node
      = (creator.ancestry.mergedParents creator.seat.roster event.parents).tip creator.seat.roster node := by
        rw [Ancestry.tip_addSelfEvent, if_neg]
        exact fun same => different (same.symm.trans own)
    _ = (creator.ancestry.mergedParents creator.seat.roster (parent :: creator.lastDescriptor.toList)).tip
          creator.seat.roster node := Ancestry.tip_mergedParents_perm _ _ reordered node

theorem Extended.improvement {before after : Creator} {surroundings : Surroundings σ} {now : Instant}
    {event parent : Event} (extended : Extended before event after) (fresh : before.ancestry.Fresh)
    (made : Made before surroundings now (some parent) event) :
    ∃ step, before.progress.record? before.seat after.ancestry before.childless event.descriptor = some step ∧
      after.progress = step.progress ∧ step.improvement = before.gain parent := by
  obtain ⟨step, recorded, progress⟩ := extended.recorded
  refine ⟨step, recorded, progress, ?_⟩
  have known := extended.tracked fresh
  have measured := advancement_of_own_event made.creator made.parents
  calc step.improvement
      = (Tipset.advancement before.seat.roster before.seat.node before.progress.snapshot
          (Creation.tipset ⟨before, event⟩)).minus before.progress.previous :=
        Progress.improvement_of_record? recorded known
    _ = (Tipset.advancement before.seat.roster before.seat.node before.progress.snapshot
          (before.ancestry.mergedParents before.seat.roster
            (parent.descriptor :: before.lastDescriptor.toList))).minus before.progress.previous := by
        rw [Creation.tipset, measured]
    _ = before.gain parent := rfl

/-- In every state that a run over a roster of at least two members reaches, an attempt that makes an event with
an other-parent records just the improvement that this parent, with the last event of the node, promised before
the attempt, and the improvement is not zero. -/
theorem improvement_is_the_expected_gain (seat : Seat) (mode : AncientMode) (settings : CreationSettings)
    (actions : List (Action σ)) (several : 2 ≤ seat.roster.size) (surroundings : Surroundings σ) (now : Instant)
    (supply : σ) {event : Event} {parent : EventDescriptor}
    (created : (((Creator.start seat mode settings).history actions).creator.attempt
      surroundings now supply).outcome = .ok (some event))
    (named : parent ∈ event.otherParents) :
    let creator := ((Creator.start seat mode settings).history actions).creator
    let after := (creator.attempt surroundings now supply).creator
    let gain := creator.theoretical (parent :: creator.lastDescriptor.toList)
    gain.isNonZero = true ∧
      ∃ step, creator.progress.record? creator.seat after.ancestry creator.childless event.descriptor = some step ∧
        after.progress = step.progress ∧ step.improvement = gain := by
  intro creator after gain
  have measured := measured_history seat mode settings actions
  have members : creator.seat.roster.size ≠ 1 := by
    rw [show creator.seat = seat from measured.seated]
    omega
  rcases creator.attempt_cases surroundings now supply with
    ⟨other, new, outcome, may, made, extended⟩ | ⟨refused, _⟩
  · cases created.symm.trans outcome
    rw [made.otherParents] at named
    cases may with
    | alone single => exact absurd single members
    | @candidate candidate _ _ gains =>
        have same : parent = candidate.descriptor := by simpa using named
        subst same
        exact ⟨gains, extended.improvement measured.fresh made⟩
    | first _ _ _ => simp at named
  · exact absurd created (refused event)

def quartetSeat : Seat :=
  ⟨⟨[⟨⟨0⟩, 1⟩, ⟨⟨1⟩, 1⟩, ⟨⟨2⟩, 1⟩, ⟨⟨3⟩, 0⟩], 3, by decide, by decide, by decide⟩, ⟨0⟩, by decide⟩

def ignoringRun : List (Action Unit) :=
  [.attempt silent .epoch (), .register (Ancestry.sampleEvent 1 [] 1 0), .register (Ancestry.sampleEvent 2 [] 1 0),
    .register (Ancestry.sampleEvent 3 [] 2 0), .attempt silent .epoch (), .attempt silent .epoch (),
    .register (Ancestry.sampleEvent 1 [] 1 1), .register (Ancestry.sampleEvent 2 [] 1 1),
    .attempt silent .epoch (), .attempt silent .epoch (), .install ⟨1, 2, 2, .birthRoundThreshold⟩,
    .register (Ancestry.sampleEvent 1 [] 2 2)]

def pityingSettings : CreationSettings := { CreationSettings.default with antiSelfishnessFactor := 1.0 }

theorem ignoringRun_pity_improves :
    let creator := ((Creator.start quartetSeat .birthRoundThreshold pityingSettings).history ignoringRun).creator
    let attempt := creator.attempt silent .epoch ()
    (∃ last, creator.lastSelfEvent = some last ∧ creator.ancestry.tipset? last.descriptor = none) ∧
      attempt.creator.stats.pityParentsUsed = 1 ∧
      ∃ event parent, attempt.outcome = .ok (some event) ∧ event.otherParents = [parent] ∧ parent.creator = ⟨3⟩ ∧
        ∃ step, creator.progress.record? creator.seat attempt.creator.ancestry creator.childless event.descriptor =
            some step ∧ step.improvement = ⟨0, 1⟩ := by
  have facts :
      let creator := ((Creator.start quartetSeat .birthRoundThreshold pityingSettings).history ignoringRun).creator
      let attempt := creator.attempt silent .epoch ()
      (∃ last ∈ creator.lastSelfEvent, creator.ancestry.tipset? last.descriptor = none) ∧
        attempt.creator.stats.pityParentsUsed = 1 ∧
        ∃ event ∈ attempt.event?, ∃ parent ∈ event.otherParents.head?,
          event.otherParents = [parent] ∧ parent.creator = ⟨3⟩ ∧
            creator.theoretical (parent :: creator.lastDescriptor.toList) = ⟨0, 1⟩ := by
    decide +kernel
  obtain ⟨⟨last, held, forgotten⟩, pitied, event, made, parent, _, others, ignored, gain⟩ := facts
  have created := Attempt.event?_eq_some.mp made
  have improved := improvement_is_the_expected_gain quartetSeat .birthRoundThreshold pityingSettings ignoringRun
    (by decide) silent .epoch () created (others ▸ List.mem_singleton_self parent)
  obtain ⟨_, step, recorded, _, improvement⟩ := improved
  exact ⟨⟨last, held, forgotten⟩, pitied, event, parent, created, others, ignored, step, recorded,
    improvement.trans gain⟩

end Creator

end Hashgraph
