import Hashgraph.Proofs.BestParent
import Hashgraph.Proofs.Pruning
import Hashgraph.Proofs.Selfishness

/-! Childless events and their creators. Each stands under its own descriptor and is its creator's newest event, no
creator has two, and removing some parents takes no other event from its creator. So the candidates of a node stand
in the order of their creators, in whatever order they are listed. -/

namespace Hashgraph

namespace Creator

theorem candidateBefore_iff {a b : Event} (different : a.creator ≠ b.creator) :
    candidateBefore a b = true ↔ a.creator.number < b.creator.number := by
  have apart : a.creator.number.toNat ≠ b.creator.number.toNat := fun same =>
    different (congrArg NodeId.mk (UInt64.toNat_inj.mp same))
  rw [UInt64.lt_iff_toNat_lt, candidateBefore, NodeId.order]
  rcases Nat.lt_or_gt_of_ne apart with less | greater
  · simp [Nat.compare_eq_lt.mpr less, less]
  · simp [Nat.compare_eq_gt.mpr greater, Nat.le_of_lt greater]

def ByCreator (events : List Event) : Prop := events.Pairwise fun a b => a.creator.number < b.creator.number

theorem ByCreator.insertCandidate {candidate : Event} {events : List Event} (ordered : ByCreator events)
    (fresh : candidate.creator ∉ events.map Event.creator) : ByCreator (insertCandidate candidate events) := by
  induction events with
  | nil => exact List.pairwise_singleton _ _
  | cons first rest ih =>
      obtain ⟨below, tail⟩ := List.pairwise_cons.mp ordered
      simp only [List.map_cons, List.mem_cons, not_or] at fresh
      unfold Creator.insertCandidate
      split
      · rename_i before
        have less := (candidateBefore_iff fresh.1).mp before
        apply List.pairwise_cons.mpr
        refine ⟨?_, ordered⟩
        intro other listed
        rcases List.mem_cons.mp listed with same | later
        · exact same ▸ less
        · exact UInt64.lt_trans less (below other later)
      · rename_i behind
        rw [candidateBefore_iff fresh.1, UInt64.not_lt] at behind
        apply List.pairwise_cons.mpr
        refine ⟨?_, ih tail fresh.2⟩
        intro other listed
        rcases List.mem_cons.mp ((insertCandidate_perm candidate rest).subset listed) with same | later
        · have apart : first.creator.number ≠ candidate.creator.number := fun equal =>
            fresh.1 (congrArg NodeId.mk equal.symm)
          exact same ▸ UInt64.lt_of_le_of_ne behind apart
        · exact below other later

theorem byCreator_foldr {events : List Event} (distinct : (events.map Event.creator).Nodup) :
    ByCreator (events.foldr insertCandidate []) := by
  induction events with
  | nil => exact List.Pairwise.nil
  | cons candidate rest ih =>
      obtain ⟨fresh, others⟩ := List.nodup_cons.mp distinct
      apply (ih others).insertCandidate
      rwa [((foldr_insertCandidate_perm rest).map Event.creator).mem_iff]

theorem ByCreator.eq_of_perm {events others : List Event} (ordered : ByCreator events)
    (orderedToo : ByCreator others) (same : events.Perm others) : events = others := by
  apply same.eq_of_pairwise _ ordered orderedToo
  intro a b _ _ less greater
  exact absurd greater (UInt64.lt_asymm less)

theorem foldr_eq_of_perm {events others : List Event} (distinct : (events.map Event.creator).Nodup)
    (same : others.Perm events) : others.foldr insertCandidate [] = events.foldr insertCandidate [] := by
  have distinctToo := (same.map Event.creator).nodup_iff.mpr distinct
  apply (byCreator_foldr distinctToo).eq_of_perm (byCreator_foldr distinct)
  exact (foldr_insertCandidate_perm others).trans (same.trans (foldr_insertCandidate_perm events).symm)

end Creator

namespace ChildlessEvents

open Creator (evenSeat)

theorem Filed.newest_foldl_remove {tracked : ChildlessEvents} (filed : Filed tracked)
    {parents : List EventDescriptor} {node : NodeId} {known : Event}
    (newest : tracked.newest.find? node = some known) (unnamed : known.descriptor ∉ parents) :
    (parents.foldl ChildlessEvents.remove tracked).newest.find? node = some known := by
  rw [newest_foldl_remove_iff]
  refine ⟨newest, ?_⟩
  rintro parent listed ⟨own, held⟩
  obtain ⟨other, _, rfl, found⟩ := filed.newest_of_contains held
  rw [own, newest] at found
  cases found
  exact unnamed listed

theorem Filed.newest_add {tracked : ChildlessEvents} (filed : Filed tracked) {event : Event}
    (accepted : tracked.isOutdated event = false) {node : NodeId} {known : Event}
    (newest : (if event.creator = node then some event else tracked.newest.find? node) = some known)
    (unnamed : known.descriptor ∉ event.parents) : (tracked.add event).newest.find? node = some known := by
  rw [newest_add_iff filed accepted]
  refine ⟨?_, newest⟩
  rintro ⟨_, parent, listed, own, itself | ⟨other, held⟩⟩
  · -- The event would be its own parent.
    have creator : event.creator = node := by rw [← own, itself]; rfl
    rw [if_pos creator] at newest
    cases newest
    exact unnamed (itself ▸ listed)
  · rw [if_neg other] at newest
    obtain ⟨childless, _, rfl, found⟩ := filed.newest_of_contains held
    rw [own, newest] at found
    cases found
    exact unnamed listed

/-- In every state that additions, retirements, windows and clearings reach, in any order, a childless event stands
under its own descriptor and is the newest one of its creator; so every creator has at most one, which is what a
look-up by the creator finds. Neither the removal of some events nor an addition that is not ignored takes an event
from its creator that is not named. In every state that a creator reaches, its sorted candidates have increasing
creators, and any other order of the childless events is sorted to the same list. -/
theorem childless_events_stand_for_their_creators :
    (∀ steps : List Step,
      let tracked := after steps
      (∀ descriptor event, tracked.childless.find? descriptor = some event →
        event.descriptor = descriptor ∧ tracked.newest.find? event.creator = some event) ∧
      (tracked.events.map Event.creator).Nodup ∧
      (∀ node event, tracked.eventFor node = some event ↔ event ∈ tracked.events ∧ event.creator = node) ∧
      (∀ (parents : List EventDescriptor) node known, tracked.newest.find? node = some known → known.descriptor ∉ parents →
        (parents.foldl remove tracked).newest.find? node = some known) ∧
      ∀ event, tracked.isOutdated event = false → ∀ node known,
        (if event.creator = node then some event else tracked.newest.find? node) = some known →
          known.descriptor ∉ event.parents → (tracked.add event).newest.find? node = some known) ∧
    ∀ {σ : Type} (seat : Seat) (mode : AncientMode) (settings : CreationSettings)
      (actions : List (Creator.Action σ)),
      let creator := ((Creator.start seat mode settings).history actions).creator
      creator.sortedCandidates.Pairwise (fun a b => a.creator.number < b.creator.number) ∧
      ∀ listed : List Event, listed.Perm creator.childless.events →
        listed.foldr Creator.insertCandidate [] = creator.sortedCandidates := by
  constructor
  · intro steps tracked
    have filed : Filed tracked := filed_after steps
    exact ⟨filed.sole, filed.sole.creators_nodup, fun _ _ => filed.eventFor_eq_some_iff,
      fun _ _ _ => filed.newest_foldl_remove, fun _ accepted _ _ => filed.newest_add accepted⟩
  · intro σ seat mode settings actions creator
    have distinct := (Creator.filed_history seat mode settings actions).sole.creators_nodup
    exact ⟨Creator.byCreator_foldr distinct, fun _ => Creator.foldr_eq_of_perm distinct⟩

def crossedEvents : Event × Event × Event × Event :=
  let low := Ancestry.sampleEvent 3 [] 1 0
  (low, Ancestry.sampleEvent 3 [] 2 4, Ancestry.sampleEvent 1 [low.descriptor] 1 2, Ancestry.sampleEvent 2 [] 1 0)

theorem crossedEvents_stand_for_three_members :
    let (low, high, child, other) := crossedEvents
    let tracked := after [.add low, .add other, .add high]
    let creator := ((Creator.start evenSeat .birthRoundThreshold .default).history
      ([.register low, .register other, .register high, .register child] : List (Creator.Action Unit))).creator
    tracked.eventFor ⟨3⟩ = some high ∧ tracked.eventFor ⟨1⟩ = none ∧
      (tracked.add child).newest.find? ⟨3⟩ = some high ∧ (tracked.add child).newest.find? ⟨1⟩ = some child ∧
      creator.sortedCandidates = [child, other, high] ∧
      creator.childless.events.reverse.foldr Creator.insertCandidate [] = [child, other, high] := by
  have facts :
      let (low, high, child, other) := crossedEvents
      let tracked := after [.add low, .add other, .add high]
      let creator := ((Creator.start evenSeat .birthRoundThreshold .default).history
        ([.register low, .register other, .register high, .register child] : List (Creator.Action Unit))).creator
      (high ∈ tracked.events ∧ high.creator = ⟨3⟩) ∧ (∀ event ∈ tracked.events, event.creator ≠ ⟨1⟩) ∧
        tracked.isOutdated child = false ∧ child.creator = ⟨1⟩ ∧ child.creator ≠ ⟨3⟩ ∧
        tracked.newest.find? ⟨3⟩ = some high ∧
        high.descriptor ∉ child.parents ∧ child.descriptor ∉ child.parents ∧
        creator.sortedCandidates = [child, other, high] := by
    decide +kernel
  obtain ⟨childless, nobody, accepted, own, other, newest, unnamed, apart, sorted⟩ := facts
  obtain ⟨filed, ordered⟩ := childless_events_stand_for_their_creators
  obtain ⟨_, _, found, _, kept⟩ := filed [.add crossedEvents.1, .add crossedEvents.2.2.2, .add crossedEvents.2.1]
  refine ⟨(found _ _).mpr childless, ?_, kept _ accepted _ _ ((if_neg other).trans newest) unnamed,
    kept _ accepted _ _ (if_pos own) apart, sorted, ?_⟩
  · apply Option.eq_none_iff_forall_ne_some.mpr
    intro event held
    exact nobody event ((found _ _).mp held).1 ((found _ _).mp held).2
  · exact ((ordered evenSeat .birthRoundThreshold .default _).2 _ (List.reverse_perm _)).trans sorted

end ChildlessEvents

end Hashgraph
