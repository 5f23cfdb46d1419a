import Hashgraph.Proofs.Gains
import Hashgraph.Proofs.SelfChain

/-! What the accumulated advancement says. As long as the last event that a node made is tracked, the
accumulator is exactly what that event's tipset is ahead of the snapshot, and that is no supermajority. Hence
a theoretical advancement counts just the members that the candidate moves and the last event did not. -/

namespace Hashgraph

namespace Progress

theorem record?_some {progress : Progress} {seat : Seat} {ancestry : Ancestry} {childless : ChildlessEvents}
    {descriptor : EventDescriptor} {step : Step}
    (found : progress.record? seat ancestry childless descriptor = some step) :
    ∃ tipset, ancestry.tipset? descriptor = some tipset ∧
      step.progress.previous = Tipset.advancement seat.roster seat.node step.progress.snapshot tipset ∧
      (step.progress.snapshot = tipset ∨
        isDecisive seat (Tipset.advancement seat.roster seat.node step.progress.snapshot tipset) = false) := by
  obtain ⟨tipset, known, rfl⟩ := Option.map_eq_some_iff.mp found
  refine ⟨tipset, known, ?_⟩
  simp only
  split
  · exact ⟨(Tipset.advancement_self _ _ _).symm, Or.inl rfl⟩
  · rename_i undecided
    exact ⟨rfl, Or.inr (by simpa using undecided)⟩

theorem record?_snapshot {progress : Progress} {seat : Seat} {ancestry : Ancestry} {childless : ChildlessEvents}
    {descriptor : EventDescriptor} {step : Step} {tipset : Tipset}
    (found : progress.record? seat ancestry childless descriptor = some step)
    (known : ancestry.tipset? descriptor = some tipset) :
    step.progress.snapshot = tipset ∨ step.progress.snapshot = progress.snapshot := by
  rw [record?, known, Option.map_some, Option.some.injEq] at found
  subst found
  simp only
  split
  · exact Or.inl rfl
  · exact Or.inr rfl

/-- The other members that a candidate moves beyond the snapshot and the node's own event did not. -/
def freshMember (seat : Seat) (snapshot own other : Tipset) (node : NodeId) : Bool :=
  decide (node ≠ seat.node) && !Tipset.isBelow (snapshot.tip seat.roster node) (own.tip seat.roster node) &&
    Tipset.isBelow (snapshot.tip seat.roster node) (other.tip seat.roster node)

theorem advances_pair {seat : Seat} {ancestry : Ancestry} {candidate last : EventDescriptor} {own other : Tipset}
    (knownOther : ancestry.tipset? candidate = some other) (knownOwn : ancestry.tipset? last = some own)
    (snapshot : Tipset) (node : NodeId) :
    Tipset.advances seat.roster seat.node snapshot (ancestry.mergedParents seat.roster [candidate, last]) node =
      (Tipset.advances seat.roster seat.node snapshot own node || freshMember seat snapshot own other node) := by
  have merged := Ancestry.height_tip_mergedParents_pair seat.roster knownOther knownOwn node
  rw [Bool.eq_iff_iff, Bool.or_eq_true, Tipset.advances_iff, Tipset.advances_iff, merged]
  simp only [freshMember, Bool.and_eq_true, Bool.not_eq_true', decide_eq_true_eq, Tipset.isBelow_eq_false_iff,
    Tipset.isBelow_iff]
  by_cases same : node = seat.node
  · simp [same]
  · simp only [same, not_false_eq_true, ne_eq, true_and]
    omega

theorem theoretical_pair {progress : Progress} {seat : Seat} {ancestry : Ancestry}
    {candidate last : EventDescriptor} {own other : Tipset}
    (knownOther : ancestry.tipset? candidate = some other) (knownOwn : ancestry.tipset? last = some own)
    (measured : progress.previous = Tipset.advancement seat.roster seat.node progress.snapshot own) :
    let whole := Tipset.advancement seat.roster seat.node progress.snapshot
      (ancestry.mergedParents seat.roster [candidate, last])
    let gain := progress.theoretical seat ancestry [candidate, last]
    progress.previous.weight ≤ whole.weight ∧ progress.previous.zeroWeightCount ≤ whole.zeroWeightCount ∧
      gain.weight.toNat = seat.roster.weightOf (freshMember seat progress.snapshot own other) ∧
      gain.zeroWeightCount.toNat = seat.roster.weightlessOf (freshMember seat progress.snapshot own other) := by
  intro whole gain
  have moved : ∀ node, Tipset.advances seat.roster seat.node progress.snapshot
      (ancestry.mergedParents seat.roster [candidate, last]) node =
        (Tipset.advances seat.roster seat.node progress.snapshot own node ||
          freshMember seat progress.snapshot own other node) :=
    advances_pair knownOther knownOwn progress.snapshot
  have nested : ∀ node, Tipset.advances seat.roster seat.node progress.snapshot own node = true →
      Tipset.advances seat.roster seat.node progress.snapshot
        (ancestry.mergedParents seat.roster [candidate, last]) node = true := by
    intro node already
    rw [moved, already, Bool.true_or]
  have counted : (fun node => Tipset.advances seat.roster seat.node progress.snapshot
        (ancestry.mergedParents seat.roster [candidate, last]) node &&
      !Tipset.advances seat.roster seat.node progress.snapshot own node) =
        freshMember seat progress.snapshot own other := by
    funext node
    rw [moved]
    simp only [freshMember, Tipset.advances]
    cases Tipset.isBelow (progress.snapshot.tip seat.roster node) (own.tip seat.roster node) <;> simp
  have sums := Tipset.advancement_minus seat.member nested
  rw [counted, ← measured] at sums
  exact sums

theorem moved_of_no_gain {progress : Progress} {seat : Seat} {ancestry : Ancestry}
    {parents : List EventDescriptor} {inner : Tipset} (named : parents ≠ [])
    (measured : progress.previous = Tipset.advancement seat.roster seat.node progress.snapshot inner)
    (nested : ∀ node, Tipset.advances seat.roster seat.node progress.snapshot inner node = true →
      Tipset.advances seat.roster seat.node progress.snapshot (ancestry.mergedParents seat.roster parents) node = true)
    (nothing : (progress.theoretical seat ancestry parents).isNonZero = false) {node : NodeId}
    (member : seat.roster.contains node = true)
    (moved : Tipset.advances seat.roster seat.node progress.snapshot
      (ancestry.mergedParents seat.roster parents) node = true) :
    Tipset.advances seat.roster seat.node progress.snapshot inner node = true := by
  obtain ⟨_, _, weight, count⟩ := Tipset.advancement_minus seat.member nested
  have whole : progress.theoretical seat ancestry parents =
      (Tipset.advancement seat.roster seat.node progress.snapshot
        (ancestry.mergedParents seat.roster parents)).minus
          (Tipset.advancement seat.roster seat.node progress.snapshot inner) := by
    rw [← measured]
    simp [theoretical, named]
  rw [whole, Advancement.isNonZero_eq_false_iff, weight, count] at nothing
  have nobody := Roster.none_of_sums_zero nothing.1 nothing.2 node member
  simpa [moved] using nobody

/-- Whoever moves all other members decides, because together with the node they have all weight. -/
theorem isDecisive_of_all_moved {seat : Seat} {snapshot tipset : Tipset} (weighted : 0 < seat.roster.total.toNat)
    (moved : ∀ node, seat.roster.contains node = true → node ≠ seat.node →
      Tipset.advances seat.roster seat.node snapshot tipset node = true) :
    isDecisive seat (Tipset.advancement seat.roster seat.node snapshot tipset) = true := by
  have others : seat.roster.weightOf (Tipset.advances seat.roster seat.node snapshot tipset) =
      seat.roster.weightOf fun node => decide (node ≠ seat.node) := by
    apply Roster.weightOf_congr
    intro node member
    by_cases same : node = seat.node
    · subst same
      simp [Tipset.advances]
    · simp [moved node member same, same]
  have all := Roster.weightOf_others seat.member
  have word := seat.roster.total.toNat_lt_size
  unfold isDecisive isSupermajority
  rw [toNat_saturatingAdd, Tipset.advancement_weight, others, Seat.weight]
  simp only [decide_eq_true_eq]
  omega

end Progress

namespace Creator

variable {σ : Type}

theorem Extended.tracked {before after : Creator} {event : Event} (extended : Extended before event after)
    (fresh : before.ancestry.Fresh) :
    after.ancestry.tipset? event.descriptor = some (Creation.tipset ⟨before, event⟩) := by
  obtain ⟨step, recorded, _⟩ := extended.recorded
  obtain ⟨tipset, known, _⟩ := Progress.record?_some recorded
  have arrived : after.ancestry =
      (before.ancestry.receive before.seat.roster (.own event.descriptor event.parents)).2 := extended.ancestry
  rw [known]
  exact congrArg some (fresh.tipset?_arrived (arrived ▸ known))

/-- The latest creation, if it is still tracked, is what the accumulator measures. -/
structure Settled (seat : Seat) (creator : Creator) (latest : Creation) : Prop where
  own : latest.event.descriptor.creator = seat.node
  measured : ∀ tipset, creator.ancestry.tipset? latest.event.descriptor = some tipset →
    tipset = latest.tipset ∧
      creator.progress.previous =
        Tipset.advancement seat.roster seat.node creator.progress.snapshot tipset ∧
      (creator.progress.snapshot = tipset ∨ Progress.isDecisive seat
        (Tipset.advancement seat.roster seat.node creator.progress.snapshot tipset) = false)

def NotAhead (seat : Seat) (a b : Tipset) : Prop :=
  ∀ node, node ≠ seat.node →
    Tipset.height (a.tip seat.roster node) ≤ Tipset.height (b.tip seat.roster node)

structure Measured (seat : Seat) (chronicle : Chronicle) : Prop where
  seated : chronicle.creator.seat = seat
  fresh : chronicle.creator.ancestry.Fresh
  untouched : chronicle.creations = [] → chronicle.creator.progress = .start seat.roster
  settled : ∀ latest ∈ chronicle.creations.head?, Settled seat chronicle.creator latest
  nested : chronicle.creations.IsChain fun later earlier =>
    later.ParentTracked → NotAhead seat earlier.tipset later.tipset

theorem Measured.of_creator {seat : Seat} {chronicle : Chronicle} (measured : Measured seat chronicle)
    {creator : Creator} (seated : creator.seat = chronicle.creator.seat) (fresh : creator.ancestry.Fresh)
    (progress : creator.progress = chronicle.creator.progress)
    (tracked : ∀ latest ∈ chronicle.creations.head?, latest.event.descriptor.creator = seat.node →
      ∀ tipset, creator.ancestry.tipset? latest.event.descriptor = some tipset →
        chronicle.creator.ancestry.tipset? latest.event.descriptor = some tipset) :
    Measured seat { chronicle with creator := creator } where
  seated := seated.trans measured.seated
  fresh := fresh
  untouched := fun nothing => progress.trans (measured.untouched nothing)
  settled := by
    intro latest isLatest
    have settled := measured.settled latest isLatest
    refine ⟨settled.own, ?_⟩
    intro tipset found
    rw [progress]
    exact settled.measured tipset (tracked latest isLatest settled.own tipset found)
  nested := measured.nested

theorem Measured.start (seat : Seat) {creator : Creator} (seated : creator.seat = seat)
    (fresh : creator.ancestry.Fresh) (progress : creator.progress = .start seat.roster) :
    Measured seat ⟨creator, []⟩ where
  seated := seated
  fresh := fresh
  untouched := fun _ => progress
  settled := by simp
  nested := by simp

theorem Measured.register {seat : Seat} {chronicle : Chronicle} (measured : Measured seat chronicle)
    (chained : Chained chronicle) (event : Event) :
    Measured seat (chronicle.next (.register event : Action σ)) := by
  have ownFresh := measured.fresh.receive chronicle.creator.seat.roster (.own event.descriptor event.parents)
  have peerFresh := measured.fresh.receive chronicle.creator.seat.roster (.peer event)
  rcases chronicle.creator.register_cases event with same | ⟨_, _, newer, replaced⟩ | ⟨_, other, peer⟩
  · simp only [Chronicle.next, same]
    exact measured
  · -- A registered event can only become the last one while the node has made none.
    simp only [Chronicle.next, replaced]
    refine measured.of_creator ?_ ownFresh ?_ ?_
    · rfl
    · rfl
    · intro latest isLatest
      have unnumbered := chained.unnumbered latest (List.mem_of_mem_head? isLatest)
      rw [isNewerSelfEvent_of_unnumbered (chained.held latest isLatest) unnumbered event] at newer
      exact absurd newer (by simp)
  · simp only [Chronicle.next, peer]
    refine measured.of_creator ?_ peerFresh ?_ ?_
    · rfl
    · rfl
    · intro latest _ own tipset found
      change (chronicle.creator.ancestry.receive chronicle.creator.seat.roster (.peer event)).2.tipset? _ = _ at found
      rw [Ancestry.tipset?_receive, if_neg] at found
      · exact found
      · rintro ⟨equal, _⟩
        apply other
        rw [measured.seated, ← own, ← equal]
        rfl

theorem Measured.install {seat : Seat} {chronicle : Chronicle} (measured : Measured seat chronicle)
    (window : EventWindow) : Measured seat (chronicle.next (.install window : Action σ)) := by
  apply measured.of_creator
  · rfl
  · exact .setWindow window
  · rfl
  · intro latest _ _ tipset found
    simp only [setWindow, Ancestry.tipset?_setWindow, Option.filter_eq_some_iff] at found
    exact found.1

theorem notAhead_of_parentTracked {seat : Seat} {chronicle : Chronicle} (measured : Measured seat chronicle)
    (chained : Chained chronicle) {surroundings : Surroundings σ} {now : Instant} {other : Option Event}
    {event : Event} (made : Made chronicle.creator surroundings now other event) {earlier : Creation}
    (isLatest : earlier ∈ chronicle.creations.head?)
    (parentTracked : Creation.ParentTracked ⟨chronicle.creator, event⟩) :
    NotAhead seat earlier.tipset (Creation.tipset ⟨chronicle.creator, event⟩) := by
  obtain ⟨parent, tipset, held, known⟩ := parentTracked
  have same : parent = earlier.event := by
    have heldEarlier := chained.held earlier isLatest
    simp only [heldEarlier] at held
    exact (Option.some.inj held).symm
  subst same
  have equal := ((measured.settled earlier isLatest).measured tipset known).1
  intro node different
  have created : event.descriptor.creator ≠ node := by
    rw [made.creator, measured.seated]
    exact different.symm
  have named : earlier.event.descriptor ∈ event.parents := by
    rw [made.parents, lastDescriptor, held]
    simp
  have inherited : (Creation.tipset ⟨chronicle.creator, event⟩).tip seat.roster node =
      (chronicle.creator.ancestry.mergedParents seat.roster event.parents).tip seat.roster node := by
    rw [← measured.seated]
    exact (Ancestry.tip_addSelfEvent _ _ _ _).trans (if_neg created)
  rw [← equal, inherited]
  exact Ancestry.height_tip_le_mergedParents seat.roster named known node

theorem Measured.attempt {seat : Seat} {chronicle : Chronicle} (measured : Measured seat chronicle)
    (chained : Chained chronicle) (surroundings : Surroundings σ) (now : Instant) (supply : σ) :
    Measured seat (chronicle.next (.attempt surroundings now supply)) := by
  rcases chronicle.next_attempt_cases surroundings now supply with
    ⟨other, event, after, result, _, made, extended⟩ | ⟨after, result, agrees⟩
  · -- The new event is the latest creation from here on, and its recording has measured it.
    rw [result]
    constructor
    case seated => exact extended.seat.trans measured.seated
    case fresh =>
      rw [extended.ancestry]
      exact measured.fresh.receive _ (.own event.descriptor event.parents)
    case untouched =>
      intro impossible
      simp at impossible
    case settled =>
      intro latest isLatest
      cases isLatest
      refine ⟨made.creator.trans (congrArg Seat.node measured.seated), ?_⟩
      intro tipset found
      obtain ⟨step, recorded, progress⟩ := extended.recorded
      obtain ⟨known, foundKnown, previous, settled⟩ := Progress.record?_some recorded
      cases foundKnown.symm.trans found
      have own := found.symm.trans (extended.tracked measured.fresh)
      rw [measured.seated] at previous settled
      rw [progress]
      exact ⟨Option.some.inj own, previous, settled⟩
    case nested =>
      rw [List.isChain_cons]
      refine ⟨?_, measured.nested⟩
      intro earlier isLatest
      exact notAhead_of_parentTracked measured chained made isLatest
  · rw [result]
    apply measured.of_creator agrees.seat (agrees.ancestry ▸ measured.fresh) agrees.progress
    intro latest _ _ tipset found
    exact agrees.ancestry ▸ found

theorem measured_history (seat : Seat) (mode : AncientMode) (settings : CreationSettings)
    (actions : List (Action σ)) : Measured seat ((Creator.start seat mode settings).history actions) := by
  induction actions using List.reverseRecOn with
  | nil => exact .start seat rfl (.start _ _) rfl
  | append_singleton actions action ih =>
      have chained := chained_history (Creator.start seat mode settings) actions
      rw [history_concat]
      cases action with
      | register event => exact ih.register chained event
      | install window => exact ih.install window
      | attempt surroundings now supply => exact ih.attempt chained surroundings now supply
      | clear =>
          refine .start seat ih.seated (.start _ _) ?_
          exact congrArg (fun seat : Seat => Progress.start seat.roster) ih.seated

end Creator

end Hashgraph
