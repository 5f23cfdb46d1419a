import Hashgraph.Proofs.LegalCandidates
import Hashgraph.Proofs.MergeLaws
import Hashgraph.Proofs.OwnTip
import Hashgraph.Proofs.Telescope

/-! Whether snapshots rise. A snapshot is the tipset of an own event, which merges only those parents that are
tracked. Therefore it may fall behind the one before when windows make a self-parent ancient; it does not when
every own event since then knows, through its self-parent or another parent, what the one before it knew. -/

namespace Hashgraph

namespace Creator

variable {σ : Type}

namespace Creation

instance (creation : Creation) : Decidable creation.ParentTracked :=
  decidable_of_iff (∃ parent ∈ creation.before.lastSelfEvent,
      (creation.before.ancestry.tipset? parent.descriptor).isSome = true) <| by
    simp only [ParentTracked, Option.isSome_iff_exists, Option.mem_def, ← exists_and_left]

def step? (creation : Creation) : Option Progress.Step :=
  let before := creation.before
  before.progress.record? before.seat
    (before.ancestry.addSelfEvent before.seat.roster creation.event.descriptor creation.event.parents).2
    before.childless creation.event.descriptor

def replaces (creation : Creation) : Bool := creation.step?.any Progress.Step.replaced

def advancement (creation : Creation) : Advancement :=
  Tipset.advancement creation.before.seat.roster creation.before.seat.node creation.before.progress.snapshot
    creation.tipset

/-- An own event continues the one before it if that is still tracked, or if another parent knows as much. -/
def Continues (roster : Roster) (later earlier : Creation) : Prop :=
  later.ParentTracked ∨ ∃ parent ∈ later.event.otherParents, ∃ tipset ∈ later.before.ancestry.tipset? parent,
    tipset.Dominates roster earlier.tipset

instance (roster : Roster) : DecidableRel (Continues roster) := fun later earlier =>
  inferInstanceAs (Decidable (later.ParentTracked ∨ ∃ parent ∈ later.event.otherParents,
    ∃ tipset ∈ later.before.ancestry.tipset? parent, tipset.Dominates roster earlier.tipset))

end Creation

def snapshotOf (roster : Roster) (creations : List Creation) : Tipset :=
  ((creations.find? Creation.replaces).map Creation.tipset).getD (.empty roster)

theorem snapshotOf_cons (roster : Roster) (creation : Creation) (older : List Creation) :
    snapshotOf roster (creation :: older) =
      if creation.replaces then creation.tipset else snapshotOf roster older := by
  rw [snapshotOf, snapshotOf, List.find?_cons]
  cases creation.replaces <;> rfl

/-- The events down to the one that gave the snapshot; none if there is no such event. -/
def sinceSnapshot (creations : List Creation) : List Creation :=
  match creations.find? Creation.replaces with
  | none => []
  | some base => creations.takeWhile (fun creation => !creation.replaces) ++ [base]

theorem isPrefix_sinceSnapshot (creations : List Creation) : sinceSnapshot creations <+: creations := by
  unfold sinceSnapshot
  split
  · exact List.nil_prefix
  · rename_i base found
    obtain ⟨replaced, recent, older, rfl, unreplaced⟩ := List.find?_eq_some_iff_append.mp found
    rw [List.takeWhile_append_of_pos unreplaced, List.takeWhile_cons_of_neg (by simp [replaced])]
    exact ⟨older, by simp⟩

theorem mem_sinceSnapshot {creations : List Creation} {base : Creation}
    (found : creations.find? Creation.replaces = some base) : base ∈ sinceSnapshot creations := by
  simp [sinceSnapshot, found]

theorem dominates_snapshotOf {roster : Roster} {creation : Creation} {creations : List Creation}
    (falling : (creation :: sinceSnapshot creations).IsChain fun later earlier =>
      later.tipset.Dominates roster earlier.tipset) :
    creation.tipset.Dominates roster (snapshotOf roster creations) := by
  cases found : creations.find? Creation.replaces with
  | none =>
      rw [snapshotOf, found]
      exact Tipset.dominates_empty roster _
  | some base =>
      rw [snapshotOf, found]
      rw [← List.isChain_map Creation.tipset, List.map_cons] at falling
      exact falling.rel_cons (List.mem_map_of_mem (mem_sinceSnapshot found))

theorem Extended.snapshot {before after : Creator} {event : Event} (extended : Extended before event after)
    (fresh : before.ancestry.Fresh) :
    let creation : Creation := ⟨before, event⟩
    creation.replaces = Progress.isDecisive before.seat creation.advancement ∧
      after.progress.snapshot = if creation.replaces then creation.tipset else before.progress.snapshot := by
  intro creation
  obtain ⟨step, recorded, progress⟩ := extended.recorded
  obtain ⟨other, again, _, replaced, snapshot, _⟩ :=
    before.progress.record?_of_tracked before.seat before.childless (extended.tracked fresh)
  obtain rfl : step = other := Option.some.inj (recorded.symm.trans again)
  rw [extended.ancestry] at recorded
  have found : creation.replaces = step.replaced := by
    rw [Creation.replaces, show creation.step? = some step from recorded]
    rfl
  rw [found, progress]
  exact ⟨replaced, snapshot⟩

structure Traced (seat : Seat) (chronicle : Chronicle) : Prop where
  own : ∀ creation ∈ chronicle.creations,
    creation.before.seat = seat ∧ creation.event.descriptor.creator = seat.node
  snapshot : chronicle.creator.progress.snapshot = snapshotOf seat.roster chronicle.creations

theorem traced_history (seat : Seat) (mode : AncientMode) (settings : CreationSettings)
    (actions : List (Action σ)) : Traced seat ((Creator.start seat mode settings).history actions) := by
  induction actions using List.reverseRecOn with
  | nil => exact ⟨by simp [history], rfl⟩
  | append_singleton actions action ih =>
      have measured := measured_history seat mode settings actions
      rw [history_concat]
      generalize (Creator.start seat mode settings).history actions = chronicle at ih measured
      cases action with
      | register event =>
          refine ⟨ih.own, Eq.trans ?_ ih.snapshot⟩
          simp only [Chronicle.next]
          rcases chronicle.creator.register_cases event with same | ⟨_, _, _, replaced⟩ | ⟨_, _, peer⟩
          · rw [same]
          · rw [replaced]
          · rw [peer]
      | install window => exact ⟨ih.own, ih.snapshot⟩
      | attempt surroundings now supply =>
          rcases chronicle.next_attempt_cases surroundings now supply with
            ⟨_, event, after, result, _, made, extended⟩ | ⟨after, result, agrees⟩
          · rw [result]
            constructor
            · intro creation listed
              rcases List.mem_cons.mp listed with rfl | old
              · exact ⟨measured.seated, made.creator.trans (congrArg Seat.node measured.seated)⟩
              · exact ih.own creation old
            · rw [(extended.snapshot measured.fresh).2, ih.snapshot, snapshotOf_cons]
          · rw [result]
            exact ⟨ih.own, (congrArg Progress.snapshot agrees.progress).trans ih.snapshot⟩
      | clear =>
          refine ⟨by simp [Chronicle.next], ?_⟩
          simp only [Chronicle.next, clear, measured.seated]
          rfl

theorem Creation.tip_tipset {seat : Seat} {creation : Creation} (seated : creation.before.seat = seat)
    (own : creation.event.descriptor.creator = seat.node) (node : NodeId) :
    creation.tipset.tip seat.roster node = if seat.node = node then none
      else (creation.before.ancestry.mergedParents seat.roster creation.event.parents).tip seat.roster node := by
  rw [← own, ← seated]
  exact Ancestry.tip_addSelfEvent _ _ _ _

/-- An own event that continues the one before it dominates that, wherever it stands in a run. -/
theorem dominating_history (seat : Seat) (mode : AncientMode) (settings : CreationSettings)
    (actions : List (Action σ)) :
    ((Creator.start seat mode settings).history actions).creations.IsChain fun later earlier =>
      later.Continues seat.roster earlier → later.tipset.Dominates seat.roster earlier.tipset := by
  have own := (traced_history seat mode settings actions).own
  refine List.IsChain.imp_of_mem_imp ?_ (measured_history seat mode settings actions).nested
  intro later earlier isLater isEarlier nested continues
  obtain ⟨laterSeated, laterOwn⟩ := own later isLater
  obtain ⟨earlierSeated, earlierOwn⟩ := own earlier isEarlier
  rw [Tipset.dominates_iff]
  intro node
  by_cases same : seat.node = node
  · rw [Creation.tip_tipset earlierSeated earlierOwn, if_pos same]
    exact Nat.zero_le _
  rcases continues with tracked | ⟨parent, named, tipset, known, dominates⟩
  · exact nested tracked node (Ne.symm same)
  · rw [Creation.tip_tipset laterSeated laterOwn, if_neg same]
    have listed : parent ∈ later.event.parents := List.mem_append_right _ named
    exact Nat.le_trans (Tipset.dominates_iff.mp dominates node)
      (Ancestry.height_tip_le_mergedParents seat.roster listed known node)

theorem dominating_attempt (seat : Seat) (mode : AncientMode) (settings : CreationSettings)
    (actions : List (Action σ)) (surroundings : Surroundings σ) (now : Instant) (supply : σ) {event : Event}
    (made : (((Creator.start seat mode settings).history actions).creator.attempt surroundings now supply).outcome =
      .ok (some event)) :
    let chronicle := (Creator.start seat mode settings).history actions
    (⟨chronicle.creator, event⟩ :: chronicle.creations).IsChain fun later earlier =>
      later.Continues seat.roster earlier → later.tipset.Dominates seat.roster earlier.tipset := by
  have dominating := dominating_history seat mode settings (actions ++ [.attempt surroundings now supply])
  simpa only [history_concat, Chronicle.next, made] using dominating

/-- In a run, the snapshot is the latest tipset that was decisive. A new own event replaces it by its own tipset
just when the members that it moves beyond the snapshot, and the node, are a supermajority. No member's tip in the
snapshot falls by that, provided that each own event since the one that gave the old snapshot continues the one
before it, up to the new event. -/
theorem snapshots_rise_while_events_continue (seat : Seat) (mode : AncientMode) (settings : CreationSettings)
    (actions : List (Action σ)) (surroundings : Surroundings σ) (now : Instant) (supply : σ) {event : Event}
    (made : (((Creator.start seat mode settings).history actions).creator.attempt surroundings now supply).outcome =
      .ok (some event)) :
    let chronicle := (Creator.start seat mode settings).history actions
    let creation : Creation := ⟨chronicle.creator, event⟩
    let old := chronicle.creator.progress.snapshot
    let new := (chronicle.creator.attempt surroundings now supply).creator.progress.snapshot
    old = snapshotOf seat.roster chronicle.creations ∧
      new = (if creation.replaces then creation.tipset else old) ∧
      (creation.replaces = true ↔ seat.roster.total.toNat * 2 <
        (seat.roster.weightOf (Tipset.advances seat.roster seat.node old creation.tipset) + seat.weight.toNat) * 3) ∧
      ((creation :: sinceSnapshot chronicle.creations).IsChain (Creation.Continues seat.roster) →
        new.Dominates seat.roster old) := by
  intro chronicle creation old new
  have measured := measured_history seat mode settings actions
  have traced := traced_history seat mode settings actions
  have seated : chronicle.creator.seat = seat := measured.seated
  have oldest : old = snapshotOf seat.roster chronicle.creations := traced.snapshot
  obtain ⟨decided, replacing⟩ : creation.replaces = Progress.isDecisive chronicle.creator.seat creation.advancement ∧
      new = if creation.replaces then creation.tipset else old := by
    rcases chronicle.creator.attempt_cases surroundings now supply with
      ⟨_, other, created, _, _, extended⟩ | ⟨refused, _⟩
    · cases created.symm.trans made
      exact extended.snapshot measured.fresh
    · exact absurd made (refused event)
  refine ⟨oldest, replacing, ?_, ?_⟩
  · rw [decided, Progress.isDecisive_iff, Creation.advancement, seated, Tipset.advancement_weight]
  · intro continued
    rw [replacing]
    split
    · have dominating := dominating_attempt seat mode settings actions surroundings now supply made
      have recent := dominating.prefix ((List.prefix_cons_inj creation).mpr (isPrefix_sinceSnapshot _))
      rw [oldest]
      apply dominates_snapshotOf
      rw [List.isChain_iff_getElem] at continued recent ⊢
      exact fun place bound => recent place bound (continued place bound)
    · exact Tipset.Dominates.refl _ _

def coveringRun : List (Action Unit) :=
  let first := Ancestry.sampleEvent 1 [] 1 0
  let again := Ancestry.sampleEvent 1 [] 2 1
  let third := Ancestry.sampleEvent 3 [] 2 1
  [.attempt silent .epoch (), .register first, .register (Ancestry.sampleEvent 2 [first.descriptor] 1 1),
    .attempt silent .epoch (), .register (Ancestry.sampleEvent 3 [] 1 0), .attempt silent .epoch (),
    .install ⟨1, 2, 2, .birthRoundThreshold⟩, .register again, .register third,
    .register (Ancestry.sampleEvent 2 [again.descriptor, third.descriptor] 2 2)]

theorem coveringRun_raises_snapshot :
    let chronicle := (Creator.start quartetSeat .birthRoundThreshold .default).history coveringRun
    let attempt := chronicle.creator.attempt silent .epoch ()
    ∃ event, attempt.outcome = .ok (some event) ∧ ¬Creation.ParentTracked ⟨chronicle.creator, event⟩ ∧
      chronicle.creator.progress.snapshot.tips = [none, some 0, some 1, none] ∧
      attempt.creator.progress.snapshot.tips = [none, some 1, some 2, some 1] ∧
      attempt.creator.progress.snapshot.Dominates quartetSeat.roster chronicle.creator.progress.snapshot := by
  have facts :
      let chronicle := (Creator.start quartetSeat .birthRoundThreshold .default).history coveringRun
      let attempt := chronicle.creator.attempt silent .epoch ()
      ∃ event ∈ attempt.event?, ¬Creation.ParentTracked ⟨chronicle.creator, event⟩ ∧
        chronicle.creator.progress.snapshot.tips = [none, some 0, some 1, none] ∧
        attempt.creator.progress.snapshot.tips = [none, some 1, some 2, some 1] ∧
        (⟨chronicle.creator, event⟩ :: sinceSnapshot chronicle.creations).IsChain
          (Creation.Continues quartetSeat.roster) := by
    decide +kernel
  obtain ⟨event, made, forgotten, old, new, continued⟩ := facts
  have created := Attempt.event?_eq_some.mp made
  have rises := snapshots_rise_while_events_continue quartetSeat .birthRoundThreshold .default coveringRun
    silent .epoch () created
  exact ⟨event, created, forgotten, old, new, rises.2.2.2 continued⟩

def Action.event? : Action σ → Option Event
  | .register event => some event
  | _ => none

def Ascending (actions : List (Action σ)) : Prop :=
  ∀ later ∈ actions.filterMap Action.event?, ∀ earlier ∈ actions.filterMap Action.event?,
    later.selfParent = some earlier.descriptor → Tipset.isBelow earlier.nGen later.nGen = true

instance (actions : List (Action σ)) : Decidable (Ascending actions) :=
  inferInstanceAs (Decidable (∀ later ∈ actions.filterMap Action.event?, ∀ earlier ∈ actions.filterMap Action.event?,
    later.selfParent = some earlier.descriptor → Tipset.isBelow earlier.nGen later.nGen = true))

def leadingSeat : Seat :=
  ⟨⟨[⟨⟨0⟩, 3⟩, ⟨⟨1⟩, 1⟩, ⟨⟨2⟩, 1⟩], 5, by decide, by decide, by decide⟩, ⟨0⟩, by decide⟩

def fallingRun : List (Action Unit) :=
  [.attempt silent .epoch (), .register (Ancestry.sampleEvent 1 [] 1 0), .attempt silent .epoch (),
    .install ⟨1, 2, 2, .birthRoundThreshold⟩, .register (Ancestry.sampleEvent 2 [] 2 0)]

/-- Behind a forgotten self-parent a member can fall back, although windows move forward and numbers rise. -/
theorem forgotten_parents_let_snapshots_fall :
    ¬∀ (seat : Seat) (mode : AncientMode) (settings : CreationSettings) (actions : List (Action Unit))
      (surroundings : Surroundings Unit) (now : Instant) (event : Event),
      let chronicle := (Creator.start seat mode settings).history actions
      let attempt := chronicle.creator.attempt surroundings now ()
      Forward (Creator.start seat mode settings).window actions → Ascending actions →
        attempt.outcome = .ok (some event) → Creation.replaces ⟨chronicle.creator, event⟩ = true →
          attempt.creator.progress.snapshot.Dominates seat.roster chronicle.creator.progress.snapshot := by
  intro claim
  have run := claim leadingSeat .birthRoundThreshold .default fallingRun silent .epoch
  have facts :
      let chronicle := (Creator.start leadingSeat .birthRoundThreshold .default).history fallingRun
      let attempt := chronicle.creator.attempt silent .epoch ()
      Forward (Creator.start leadingSeat .birthRoundThreshold .default).window fallingRun ∧ Ascending fallingRun ∧
        ∃ event ∈ attempt.event?, Creation.replaces ⟨chronicle.creator, event⟩ = true ∧
          ¬attempt.creator.progress.snapshot.Dominates leadingSeat.roster chronicle.creator.progress.snapshot := by
    decide +kernel
  obtain ⟨forward, ascending, event, made, replaced, falls⟩ := facts
  exact falls (run event forward ascending (Attempt.event?_eq_some.mp made) replaced)

end Creator

end Hashgraph
