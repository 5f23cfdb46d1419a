import Hashgraph.Proofs.Accumulator

/-! A node never counts itself: nothing that its creator measures with has a tip of the node, although its own
events are tracked and other members build on them. -/

namespace Hashgraph

namespace Ancestry

structure Unaware (roster : Roster) (node : NodeId) (ancestry : Ancestry) : Prop where
  tipsets : ∀ descriptor tipset, ancestry.tipset? descriptor = some tipset → tipset.tip roster node = none
  latest : ancestry.latestFor roster node = none
  fits : ancestry.latest.tips.length = roster.size

theorem Unaware.start (roster : Roster) (node : NodeId) (mode : AncientMode) :
    Unaware roster node (start roster mode) where
  tipsets := by simp
  latest := Tipset.tip_empty roster node
  fits := Tipset.length_empty roster

theorem Unaware.setWindow {roster : Roster} {node : NodeId} {ancestry : Ancestry}
    (unaware : Unaware roster node ancestry) (window : EventWindow) :
    Unaware roster node (ancestry.setWindow window) where
  tipsets := by
    intro descriptor tipset found
    rw [tipset?_setWindow, Option.filter_eq_some_iff] at found
    exact unaware.tipsets descriptor tipset found.1
  latest := unaware.latest
  fits := unaware.fits

theorem Unaware.mergedParents {roster : Roster} {node : NodeId} {ancestry : Ancestry}
    (unaware : Unaware roster node ancestry) (parents : List EventDescriptor) :
    (ancestry.mergedParents roster parents).tip roster node = none := by
  cases found : (ancestry.mergedParents roster parents).tip roster node with
  | none => rfl
  | some nGen =>
      obtain ⟨parent, _, tipset, tracked, tip⟩ := tip_mergedParents_source found
      rw [unaware.tipsets parent tipset tracked] at tip
      cases tip

/-- The node is left out of the tipset of an event of its own, and only its events could raise its tip. -/
theorem Unaware.tip_receive {roster : Roster} {node : NodeId} {ancestry : Ancestry}
    (unaware : Unaware roster node ancestry) {arrival : Arrival} (owned : arrival.BelongsTo node) :
    (ancestry.receive roster arrival).1.tip roster node = none := by
  cases member : roster.contains node with
  | false =>
      apply Tipset.tip_of_stranger
      simpa [Roster.contains] using member
  | true =>
      rw [Ancestry.tip_receive ancestry arrival owned member]
      cases arrival with
      | peer event =>
          have other : event.creator ≠ node := owned
          simp only [other, if_false]
          exact unaware.mergedParents event.parents
      | own descriptor parents => exact if_pos rfl

theorem Unaware.latest_receive {roster : Roster} {node : NodeId} {ancestry : Ancestry}
    (unaware : Unaware roster node ancestry) {arrival : Arrival} (owned : arrival.BelongsTo node) :
    (ancestry.receive roster arrival).2.latestFor roster node = none := by
  rw [latestFor_receive unaware.fits]
  cases arrival with
  | peer event => exact (if_neg fun same => owned same.1).trans unaware.latest
  | own descriptor parents => exact unaware.latest

theorem Unaware.receive {roster : Roster} {node : NodeId} {ancestry : Ancestry}
    (unaware : Unaware roster node ancestry) {arrival : Arrival} (owned : arrival.BelongsTo node) :
    Unaware roster node (ancestry.receive roster arrival).2 where
  tipsets := by
    intro descriptor tipset found
    rw [tipset?_receive] at found
    split at found
    · cases found
      exact unaware.tip_receive owned
    · exact unaware.tipsets descriptor tipset found
  latest := unaware.latest_receive owned
  fits := (length_latest_receive ancestry roster arrival).trans unaware.fits

theorem unaware_ofSteps (roster : Roster) (node : NodeId) (mode : AncientMode) (steps : List Step)
    (owned : ∀ step ∈ steps, step.BelongsTo node) :
    Unaware roster node (Record.ofSteps roster mode steps).ancestry := by
  apply Record.ofSteps_induction roster mode steps (motive := fun record => Unaware roster node record.ancestry)
  · exact .start roster node mode
  · intro record unaware step listed
    cases step with
    | add arrival => exact unaware.receive (owned _ listed)
    | install window => exact unaware.setWindow window
    | clear => exact .start roster node mode

end Ancestry

namespace Creator

variable {σ : Type}

theorem Stepped.unaware {seat : Seat} {mode : AncientMode} {creator : Creator}
    (stepped : Stepped seat mode creator) : creator.ancestry.Unaware seat.roster seat.node := by
  obtain ⟨steps, belong, equal⟩ := stepped.steps
  exact equal ▸ Ancestry.unaware_ofSteps seat.roster seat.node mode steps belong

theorem Chronicle.next_snapshot (chronicle : Chronicle) (action : Action σ) :
    let before := chronicle.creator
    let after := (chronicle.next action).creator
    after.progress.snapshot = before.progress.snapshot ∨ after.progress.snapshot = .empty before.seat.roster ∨
      ∃ descriptor, after.ancestry.tipset? descriptor = some after.progress.snapshot := by
  intro before after
  cases action with
  | register event =>
      rcases before.register_cases event with same | ⟨_, _, _, replaced⟩ | ⟨_, _, peer⟩
      · exact Or.inl (congrArg (·.progress.snapshot) same)
      · exact Or.inl (congrArg (·.progress.snapshot) replaced)
      · exact Or.inl (congrArg (·.progress.snapshot) peer)
  | install window => exact Or.inl rfl
  | attempt surroundings now supply =>
      rcases chronicle.next_attempt_cases surroundings now supply with
        ⟨_, event, made, result, _, _, extended⟩ | ⟨kept, result, agrees⟩
      · simp only [after, result]
        obtain ⟨step, recorded, progress⟩ := extended.recorded
        obtain ⟨tipset, known, _⟩ := Progress.record?_some recorded
        rw [progress]
        rcases Progress.record?_snapshot recorded known with new | old
        · exact Or.inr (Or.inr ⟨event.descriptor, new ▸ known⟩)
        · exact Or.inl old
      · simp only [after, result]
        exact Or.inl (congrArg Progress.snapshot agrees.progress)
  | clear => exact Or.inr (Or.inl rfl)

theorem snapshot_history (seat : Seat) (mode : AncientMode) (settings : CreationSettings)
    (actions : List (Action σ)) :
    ((Creator.start seat mode settings).history actions).creator.progress.snapshot.tip seat.roster seat.node =
      none := by
  induction actions using List.reverseRecOn with
  | nil => exact Tipset.tip_empty _ _
  | append_singleton actions action ih =>
      have stepped := stepped_history seat mode settings actions
      rw [history_concat]
      rcases Chronicle.next_snapshot _ action with kept | dropped | ⟨descriptor, tracked⟩
      · rw [kept]
        exact ih
      · rw [dropped, stepped.seated]
        exact Tipset.tip_empty _ _
      · exact (stepped.next action).unaware.tipsets descriptor _ tracked

/-- In every state that a run reaches, whatever is registered, the node's own tip is missing from every tipset that
is tracked, from the snapshot, and from the highest numbers seen. -/
theorem own_tip_is_never_defined (seat : Seat) (mode : AncientMode) (settings : CreationSettings)
    (actions : List (Action σ)) :
    let creator := ((Creator.start seat mode settings).history actions).creator
    (∀ descriptor tipset, creator.ancestry.tipset? descriptor = some tipset →
        tipset.tip seat.roster seat.node = none) ∧
      creator.progress.snapshot.tip seat.roster seat.node = none ∧
      creator.ancestry.latestFor seat.roster seat.node = none := by
  intro creator
  have unaware := (stepped_history seat mode settings actions).unaware
  exact ⟨unaware.tipsets, snapshot_history seat mode settings actions, unaware.latest⟩

end Creator

end Hashgraph
