import Mathlib.Data.List.TakeWhile
import Hashgraph.Proofs.ChildlessTips
import Hashgraph.Proofs.Numbering

/-! News in a network before its first round. Of all that the others have made since a node's last event, some
childless event of the node has it among its ancestors, and the node's snapshot does not. -/

namespace Hashgraph

namespace Ancestry

theorem height_mergedParents_le_receive (ancestry : Ancestry) (roster : Roster) (event : Event) {self node : NodeId}
    (other : node ≠ self) :
    Tipset.height ((ancestry.mergedParents roster event.parents).tip roster node) ≤
      Tipset.height ((ancestry.receive roster (.ofEvent event self)).1.tip roster node) := by
  cases tip : (ancestry.mergedParents roster event.parents).tip roster node with
  | none => exact Nat.zero_le _
  | some nGen =>
      rw [tip_receive_ofEvent ancestry event self (Tipset.contains_of_tip tip), if_neg other, tip]
      split
      · rw [Tipset.height_higher]
        exact Nat.le_max_left _ _
      · exact Nat.le_refl _

end Ancestry

namespace Network

def Backed (roster : Roster) (created : List Event) (tipset : Tipset) : Prop :=
  ∀ node nGen, tipset.tip roster node = some nGen → ∃ event ∈ created, event.creator = node ∧ event.nGen = some nGen

theorem Backed.mono {roster : Roster} {created : List Event} {tipset : Tipset} (backed : Backed roster created tipset)
    (event : Event) : Backed roster (event :: created) tipset := by
  intro node nGen found
  obtain ⟨source, listed, rest⟩ := backed node nGen found
  exact ⟨source, List.mem_cons_of_mem _ listed, rest⟩

theorem Backed.receive {roster : Roster} {created : List Event} {ancestry : Ancestry}
    (backed : ∀ descriptor tipset, ancestry.tipset? descriptor = some tipset → Backed roster created tipset)
    (event : Event) (self : NodeId) :
    Backed roster (event :: created) (ancestry.receive roster (.ofEvent event self)).1 := by
  have merged : ∀ node nGen, (ancestry.mergedParents roster event.parents).tip roster node = some nGen →
      ∃ source ∈ event :: created, source.creator = node ∧ source.nGen = some nGen := by
    intro node nGen found
    obtain ⟨parent, _, tipset, known, tip⟩ := Ancestry.tip_mergedParents_source found
    exact (backed parent tipset known).mono event node nGen tip
  intro node nGen found
  have member := Tipset.contains_of_tip found
  rw [Ancestry.tip_receive_ofEvent ancestry event self member] at found
  split at found
  · rename_i own
    split at found
    · cases found
    · rcases Tipset.higher_eq_or ((ancestry.mergedParents roster event.parents).tip roster node) event.nGen with
        kept | new
      · exact merged node nGen (kept.symm.trans found)
      · exact ⟨event, List.mem_cons_self, own, new.symm.trans found⟩
  · exact merged node nGen found

structure Sourced (roster : Roster) (created : List Event) (creator : Creator) : Prop where
  tipsets : ∀ descriptor tipset, creator.ancestry.tipset? descriptor = some tipset → Backed roster created tipset
  snapshot : Backed roster created creator.progress.snapshot

structure Informed (roster : Roster) (course : Course) (creator : Creator) : Prop where
  newest : ∀ node event, creator.childless.newest.find? node = some event →
    node ≠ creator.seat.node ∧ course.latest node = some event
  ahead : ∀ event ∈ course.since creator.seat.node,
    Tipset.height (creator.progress.snapshot.tip roster event.creator) < Tipset.height event.nGen
  carried : ∀ event ∈ course.since creator.seat.node, ∃ carrier ∈ creator.childless.events, ∃ tipset,
    creator.ancestry.tipset? carrier.descriptor = some tipset ∧
      Tipset.height event.nGen ≤ Tipset.height (tipset.tip roster event.creator)

structure Publication (roster : Roster) (mode : AncientMode) (before after : Course) (maker next : Creator)
    (event : Event) : Prop where
  sound : Sound roster mode before.network
  agreed : Agreed roster before
  early : Early mode before
  spread : Spread before.network maker next event after.network
  created : after.created = before.network.numbered event :: before.created
  fresh : event.hash ∉ before.created.map Event.hash

section Publication

variable {roster : Roster} {mode : AncientMode} {before after : Course} {maker next : Creator} {event : Event}

theorem Publication.creator (step : Publication roster mode before after maker next event) :
    event.creator = maker.seat.node := step.spread.creator

theorem Publication.after_sound (step : Publication roster mode before after maker next event) :
    Sound roster mode after.network := step.sound.spread step.spread

theorem Publication.unknown (step : Publication roster mode before after maker next event) {old : Creator}
    (among : old ∈ before.network.creators) : old.ancestry.tipset? event.descriptor = none := by
  rw [← Option.not_isSome_iff_eq_none, step.agreed.tracked old among]
  rintro ⟨listed, _⟩
  obtain ⟨earlier, made, same⟩ := List.mem_map.mp listed
  exact step.fresh (List.mem_map.mpr ⟨earlier, made, congrArg EventDescriptor.hash same⟩)

theorem Publication.sourced (step : Publication roster mode before after maker next event)
    (sourced : ∀ creator ∈ before.network.creators, Sourced roster before.created creator) :
    ∀ creator ∈ after.network.creators, Sourced roster after.created creator := by
  intro creator listed
  rw [step.created]
  obtain ⟨origin, amongToo, _, ancestry⟩ := step.spread.arrived step.sound creator listed
  have tipsets : ∀ descriptor tipset, creator.ancestry.tipset? descriptor = some tipset →
      Backed roster (before.network.numbered event :: before.created) tipset := by
    intro descriptor tipset found
    rw [ancestry, Ancestry.tipset?_receive] at found
    split at found
    · cases found
      exact .receive (sourced origin amongToo).tipsets _ _
    · exact ((sourced origin amongToo).tipsets descriptor tipset found).mono _
  rcases step.spread.learnt step.sound creator listed with rfl | ⟨old, among, _, rfl⟩
  · refine ⟨tipsets, ?_⟩
    obtain ⟨record, recorded, progress⟩ := step.spread.extended.recorded
    obtain ⟨own, known, _⟩ := Progress.record?_some recorded
    rw [progress]
    rcases Progress.record?_snapshot recorded known with same | same
    · rw [same]
      exact tipsets _ own known
    · rw [same]
      exact (sourced maker step.spread.listed).snapshot.mono _
  · exact ⟨tipsets, (sourced old among).snapshot.mono _⟩

theorem Publication.continues (step : Publication roster mode before after maker next event) {old : Creator}
    (informed : Informed roster before old) :
    ChildlessEvents.Continues old.childless (before.network.numbered event) := by
  obtain ⟨_, _, _, made, _, _⟩ := step.spread.built
  constructor
  · intro known remembered
    rw [creator_numbered, step.creator] at remembered
    obtain ⟨_, latest⟩ := informed.newest _ known remembered
    obtain ⟨listed, creator⟩ := Course.latest_eq_some latest
    refine ⟨?_, step.early.below_order step.agreed step.spread listed creator⟩
    rw [parents_numbered, made.parents, step.early.last maker step.spread.listed, latest]
    simp
  · intro named
    obtain ⟨parent, listed, same⟩ :=
      List.mem_map.mp (step.early.parents_made step.agreed step.sound step.spread _ named)
    exact step.fresh (List.mem_map.mpr ⟨parent, listed, congrArg EventDescriptor.hash same⟩)

theorem Publication.informed_maker (step : Publication roster mode before after maker next event)
    (informed : Informed roster before maker) : Informed roster after next := by
  have nothing : after.since next.seat.node = [] := by
    rw [Course.since, step.created, step.spread.extended.seat, List.takeWhile_cons_of_neg (by simp [step.creator])]
  constructor
  · intro node known remembered
    rw [step.spread.extended.childless] at remembered
    obtain ⟨different, latest⟩ := informed.newest node known remembered
    rw [step.spread.extended.seat]
    refine ⟨different, ?_⟩
    rw [Course.latest, step.created, List.find?_cons_of_neg (by simpa [step.creator] using different.symm)]
    exact latest
  · simp [nothing]
  · simp [nothing]

section Learning

variable {old : Creator}

theorem Publication.tipset?_learning (step : Publication roster mode before after maker next event)
    (among : old ∈ before.network.creators) (other : event.creator ≠ old.seat.node)
    (descriptor : EventDescriptor) :
    (learning roster (before.network.numbered event) old).ancestry.tipset? descriptor =
      if event.descriptor = descriptor then
        some (old.ancestry.receive roster (.ofEvent (before.network.numbered event) old.seat.node)).1
      else old.ancestry.tipset? descriptor := by
  have peer : (before.network.numbered event).creator ≠ old.seat.node := other
  rw [← step.spread.tipset?_arrived step.sound among, Ancestry.receive_ofEvent_of_peer peer]
  rfl

theorem Publication.mem_childless (step : Publication roster mode before after maker next event)
    (informed : Informed roster before old) (among : old ∈ before.network.creators)
    (listed : learning roster (before.network.numbered event) old ∈ after.network.creators) :
    (before.network.numbered event) ∈
        (learning roster (before.network.numbered event) old).childless.events ∧
      ∀ candidate ∈ old.childless.events, candidate.descriptor ∉ event.parents →
        candidate ∈ (learning roster (before.network.numbered event) old).childless.events := by
  have stocked := (step.after_sound.lived _ listed).stocked
  have stockedBefore := (step.sound.lived old among).stocked
  have continues := step.continues informed
  constructor
  · apply stocked.mem_events_iff.mpr
    refine (continues.find?_add _).trans ?_
    rw [if_neg continues.apart, if_pos rfl]
  · intro candidate present unnamed
    have other : candidate.descriptor ≠ event.descriptor := by
      intro same
      have tracked := (stockedBefore.suitable present).tracked
      rw [same, step.unknown among] at tracked
      cases tracked
    apply stocked.mem_events_iff.mpr
    refine (continues.find?_add _).trans ?_
    rw [parents_numbered, descriptor_numbered, if_neg unnamed, if_neg other]
    exact stockedBefore.mem_events_iff.mp present

/-- What others have made is carried further: by the new event if that is built on the carrier. -/
theorem Publication.carried (step : Publication roster mode before after maker next event)
    (informed : Informed roster before old) (among : old ∈ before.network.creators)
    (other : event.creator ≠ old.seat.node)
    (listed : learning roster (before.network.numbered event) old ∈ after.network.creators)
    {news : Event} (since : news ∈ before.network.numbered event :: before.since old.seat.node) :
    ∃ carrier ∈ (learning roster (before.network.numbered event) old).childless.events, ∃ tipset,
      (learning roster (before.network.numbered event) old).ancestry.tipset? carrier.descriptor =
          some tipset ∧
        Tipset.height news.nGen ≤ Tipset.height (tipset.tip roster news.creator) := by
  obtain ⟨new, kept⟩ := step.mem_childless informed among listed
  have stored := step.tipset?_learning among other event.descriptor
  rw [if_pos rfl] at stored
  rcases List.mem_cons.mp since with rfl | earlier
  · have member : roster.contains (before.network.numbered event).creator = true := by
      rw [creator_numbered, ← step.sound.roster_of_mem step.spread.listed, step.creator]
      exact maker.seat.member
    refine ⟨_, new, _, stored, ?_⟩
    rw [Ancestry.tip_receive_ofEvent _ _ _ member, if_pos rfl, creator_numbered, if_neg other, Tipset.height_higher]
    exact Nat.le_max_right _ _
  · -- If the carrier loses its place to the event, the event has the carrier's tips.
    have apart : news.creator ≠ old.seat.node := by simpa using List.mem_takeWhile_imp earlier
    obtain ⟨carrier, present, tipset, known, high⟩ := informed.carried news earlier
    by_cases named : carrier.descriptor ∈ event.parents
    · refine ⟨_, new, _, stored, ?_⟩
      have merged := Ancestry.height_tip_le_mergedParents roster named known news.creator
      have inherited := old.ancestry.height_mergedParents_le_receive roster (before.network.numbered event) apart
      exact (high.trans merged).trans inherited
    · refine ⟨carrier, kept carrier present named, tipset, ?_, high⟩
      rw [step.tipset?_learning among other, if_neg]
      · exact known
      · intro same
        rw [← same, step.unknown among] at known
        cases known

theorem Publication.informed_learning (step : Publication roster mode before after maker next event)
    (informed : Informed roster before old) (sourced : Sourced roster before.created old)
    (among : old ∈ before.network.creators)
    (other : event.creator ≠ old.seat.node)
    (listed : learning roster (before.network.numbered event) old ∈ after.network.creators) :
    Informed roster after (learning roster (before.network.numbered event) old) := by
  have since : after.since old.seat.node =
      before.network.numbered event :: before.since old.seat.node := by
    rw [Course.since, step.created, List.takeWhile_cons_of_pos (by simp [other])]
    rfl
  constructor
  · intro node known remembered
    rw [Course.latest, step.created]
    rcases (step.continues informed).newest_add remembered with ⟨rfl, rfl⟩ | ⟨apart, kept⟩
    · exact ⟨other, List.find?_cons_of_pos (by simp)⟩
    · obtain ⟨different, latest⟩ := informed.newest node known kept
      refine ⟨different, ?_⟩
      rw [creator_numbered] at apart
      rw [List.find?_cons_of_neg (by simp [apart])]
      exact latest
  · intro news arrived
    change news ∈ after.since old.seat.node at arrived
    rw [since] at arrived
    rcases List.mem_cons.mp arrived with rfl | earlier
    · change Tipset.height (old.progress.snapshot.tip roster _) < _
      cases tip : old.progress.snapshot.tip roster (before.network.numbered event).creator with
      | none => exact Nat.succ_pos _
      | some nGen =>
          obtain ⟨source, made, creator, numbered⟩ := sourced.snapshot _ nGen tip
          have below := step.early.below_order step.agreed step.spread made (creator.trans step.creator)
          rw [Tipset.isBelow_iff, numbered] at below
          exact below
    · exact informed.ahead news earlier
  · intro news arrived
    change news ∈ after.since old.seat.node at arrived
    rw [since] at arrived
    exact step.carried informed among other listed arrived

end Learning

theorem Publication.informed (step : Publication roster mode before after maker next event)
    (informed : ∀ creator ∈ before.network.creators, Informed roster before creator)
    (sourced : ∀ creator ∈ before.network.creators, Sourced roster before.created creator) :
    ∀ creator ∈ after.network.creators, Informed roster after creator := by
  intro creator listed
  rcases step.spread.learnt step.sound creator listed with rfl | ⟨old, among, other, rfl⟩
  · exact step.informed_maker (informed maker step.spread.listed)
  · exact step.informed_learning (informed old among) (sourced old among) among other listed

end Publication

end Network

end Hashgraph
