import Mathlib.Data.List.Chain
import Mathlib.Data.List.Perm.Subperm
import Hashgraph.Proofs.Candidates

/-! Childless events as the tips of what has arrived. Every childless event is its creator's newest one, so no
creator has two; and when the events of each creator are one chain and arrive behind their parents, just those
stay childless that no event names, whatever the order. -/

namespace Hashgraph

namespace ChildlessEvents

theorem newest_of_remove {tracked : ChildlessEvents} {descriptor : EventDescriptor} {node : NodeId} {event : Event}
    (found : (tracked.remove descriptor).newest.find? node = some event) :
    tracked.newest.find? node = some event := by
  unfold remove at found
  split at found
  · rw [Table.find?_erase] at found
    split at found
    · simp at found
    · exact found
  · exact found

theorem newest_of_foldl_remove {tracked : ChildlessEvents} {descriptors : List EventDescriptor} {node : NodeId}
    {event : Event} (found : (descriptors.foldl remove tracked).newest.find? node = some event) :
    tracked.newest.find? node = some event := by
  induction descriptors generalizing tracked with
  | nil => exact found
  | cons first rest ih => exact newest_of_remove (ih found)

def Sole (tracked : ChildlessEvents) : Prop :=
  ∀ descriptor event, tracked.childless.find? descriptor = some event →
    event.descriptor = descriptor ∧ tracked.newest.find? event.creator = some event

theorem Sole.nothing : Sole empty := by
  intro descriptor event found
  simp [empty] at found

theorem Sole.eq_of_creator {tracked : ChildlessEvents} (sole : Sole tracked) {a b : EventDescriptor}
    {first second : Event} (foundA : tracked.childless.find? a = some first)
    (foundB : tracked.childless.find? b = some second) (same : first.creator = second.creator) : a = b := by
  obtain ⟨namedA, newestA⟩ := sole a first foundA
  obtain ⟨namedB, newestB⟩ := sole b second foundB
  rw [same, newestB] at newestA
  cases newestA
  exact namedA.symm.trans namedB

theorem Sole.remove {tracked : ChildlessEvents} (sole : Sole tracked) (descriptor : EventDescriptor) :
    Sole (tracked.remove descriptor) := by
  intro other event found
  rw [find?_remove] at found
  split at found
  · simp at found
  rename_i different
  obtain ⟨named, newest⟩ := sole other event found
  refine ⟨named, ?_⟩
  unfold ChildlessEvents.remove
  split
  · rename_i held
    obtain ⟨removed, stored⟩ := Option.isSome_iff_exists.mp held
    rw [Table.find?_erase, if_neg]
    · exact newest
    · intro same
      have creator : event.creator = removed.creator := by
        rw [same, ← (sole descriptor removed stored).1]
        rfl
      exact different (sole.eq_of_creator found stored creator)
  · exact newest

theorem Sole.foldl_remove {tracked : ChildlessEvents} (sole : Sole tracked) (descriptors : List EventDescriptor) :
    Sole (descriptors.foldl ChildlessEvents.remove tracked) :=
  List.foldlRecOn descriptors _ sole fun _ held descriptor _ => held.remove descriptor

theorem Sole.put {tracked : ChildlessEvents} (sole : Sole tracked) {event : Event}
    (only : ∀ descriptor other, tracked.childless.find? descriptor = some other → other.creator ≠ event.creator) :
    Sole (tracked.put event) := by
  intro descriptor found held
  rw [ChildlessEvents.put, Table.find?_insert] at held
  rw [ChildlessEvents.put, Table.find?_insert]
  split at held
  · rename_i same
    cases held
    exact ⟨same, if_pos rfl⟩
  · obtain ⟨named, newest⟩ := sole descriptor found held
    rw [if_neg fun same => only descriptor found held same.symm]
    exact ⟨named, newest⟩

theorem Sole.add {tracked : ChildlessEvents} (sole : Sole tracked) (event : Event) : Sole (tracked.add event) := by
  unfold ChildlessEvents.add
  split
  · exact sole
  apply Sole.foldl_remove
  split
  · rename_i known remembered
    apply (sole.remove known.descriptor).put
    intro descriptor other found same
    rw [find?_remove] at found
    split at found
    · simp at found
    rename_i different
    obtain ⟨named, newest⟩ := sole descriptor other found
    rw [same, remembered] at newest
    cases newest
    exact different named.symm
  · rename_i forgotten
    apply sole.put
    intro descriptor other found same
    have newest := (sole descriptor other found).2
    rw [same, forgotten] at newest
    simp at newest

theorem Sole.retire {tracked : ChildlessEvents} (sole : Sole tracked) (parents : List EventDescriptor) :
    Sole (tracked.retire parents) := by
  intro descriptor event found
  rw [find?_retire] at found
  split at found
  · simp at found
  · exact sole descriptor event found

theorem Sole.prune {tracked : ChildlessEvents} (sole : Sole tracked) (window : EventWindow) :
    Sole (tracked.prune window) := sole.foldl_remove _

theorem Sole.creators_nodup {tracked : ChildlessEvents} (sole : Sole tracked) :
    (tracked.events.map Event.creator).Nodup := by
  have keys := tracked.childless.unique
  rw [events, Table.values, List.map_map, List.nodup_iff_pairwise_ne, List.pairwise_map]
  rw [List.nodup_iff_pairwise_ne, List.pairwise_map] at keys
  apply keys.imp_of_mem
  intro a b memberA memberB different same
  have foundA := (Table.lookup_eq_some_iff tracked.childless.unique).mpr memberA
  have foundB := (Table.lookup_eq_some_iff tracked.childless.unique).mpr memberB
  exact different (sole.eq_of_creator foundA foundB same)

/-- If its creator's newest event is remembered, the event names it as a parent and has a higher number. -/
structure Continues (tracked : ChildlessEvents) (event : Event) : Prop where
  follows : ∀ known, tracked.newest.find? event.creator = some known →
    known.descriptor ∈ event.parents ∧ Tipset.isBelow known.nGen event.nGen = true
  apart : event.descriptor ∉ event.parents

theorem isOutdated_eq (tracked : ChildlessEvents) (event : Event) :
    tracked.isOutdated event =
      (tracked.newest.find? event.creator).any fun known => !Tipset.isBelow known.nGen event.nGen := by
  unfold isOutdated
  cases tracked.newest.find? event.creator with
  | none => rfl
  | some known =>
      cases old : known.nGen <;> cases new : event.nGen <;> simp [Tipset.isBelow, old, ← decide_not]

theorem Continues.isOutdated {tracked : ChildlessEvents} {event : Event} (continues : Continues tracked event) :
    tracked.isOutdated event = false := by
  rw [isOutdated_eq]
  cases remembered : tracked.newest.find? event.creator with
  | none => rfl
  | some known => simp [(continues.follows known remembered).2]

theorem Continues.find?_add {tracked : ChildlessEvents} {event : Event} (continues : Continues tracked event)
    (descriptor : EventDescriptor) :
    (tracked.add event).childless.find? descriptor =
      if descriptor ∈ event.parents then none
      else if descriptor = event.descriptor then some event
      else tracked.childless.find? descriptor := by
  rw [ChildlessEvents.add, continues.isOutdated, if_neg (by simp), find?_foldl_remove]
  by_cases named : descriptor ∈ event.parents
  · simp [named]
  simp only [named, if_false, put, Table.find?_insert, eq_comm (a := event.descriptor)]
  by_cases own : descriptor = event.descriptor
  · simp [own]
  simp only [own, if_false]
  split
  · rename_i known remembered
    -- What the event replaces is one of its parents.
    rw [find?_remove, if_neg]
    rintro rfl
    exact named (continues.follows known remembered).1
  · rfl

theorem Continues.newest_add {tracked : ChildlessEvents} {event found : Event} (continues : Continues tracked event)
    {node : NodeId} (held : (tracked.add event).newest.find? node = some found) :
    (event.creator = node ∧ found = event) ∨ (event.creator ≠ node ∧ tracked.newest.find? node = some found) := by
  rw [ChildlessEvents.add, continues.isOutdated, if_neg (by simp)] at held
  have stored := newest_of_foldl_remove held
  rw [put, Table.find?_insert] at stored
  split at stored
  · rename_i own
    cases stored
    exact Or.inl ⟨own, rfl⟩
  · rename_i other
    refine Or.inr ⟨other, ?_⟩
    split at stored
    · exact newest_of_remove stored
    · exact stored

/-! ### Any order behind the parents -/

/-- The events of every creator are one chain of self-parents, with rising numbers. -/
def SelfChains (events : List Event) : Prop :=
  ∀ node ∈ events.map Event.creator, ∃ chain : List Event,
    chain.Perm (events.filter fun event => decide (event.creator = node)) ∧
      chain.IsChain fun earlier later =>
        later.selfParent = some earlier.descriptor ∧ Tipset.isBelow earlier.nGen later.nGen = true

structure ParentsFirst (events : List Event) : Prop where
  ordered : events.Pairwise fun earlier later => later.descriptor ∉ earlier.parents
  apart : ∀ event ∈ events, event.descriptor ∉ event.parents

theorem ParentsFirst.sublist {events fewer : List Event} (inOrder : ParentsFirst events)
    (part : fewer.Sublist events) : ParentsFirst fewer where
  ordered := inOrder.ordered.sublist part
  apart := fun event member => inOrder.apart event (part.subset member)

theorem mem_parents_of_selfParent {event : Event} {parent : EventDescriptor}
    (own : event.selfParent = some parent) : parent ∈ event.parents := by
  have named : event.content.selfParent = some parent := own
  simp [Event.parents, EventContent.parents, named]

theorem exists_predecessor {related : Event → Event → Prop} {first event : Event} {rest : List Event}
    (linked : (first :: rest).IsChain related) (member : event ∈ rest) :
    ∃ parent ∈ first :: rest, related parent event := by
  induction rest generalizing first with
  | nil => simp at member
  | cons second rest ih =>
      obtain ⟨link, tail⟩ := List.isChain_cons_cons.mp linked
      rcases List.mem_cons.mp member with same | later
      · exact ⟨first, List.mem_cons_self, same ▸ link⟩
      · obtain ⟨parent, earlier, related_⟩ := ih tail later
        exact ⟨parent, List.mem_cons_of_mem _ earlier, related_⟩

theorem eq_of_perm_of_parentsFirst {chain events : List Event}
    (linked : chain.IsChain fun earlier later => earlier.descriptor ∈ later.parents) (same : chain.Perm events)
    (inOrder : ParentsFirst events) : chain = events := by
  induction chain generalizing events with
  | nil => exact (List.nil_perm.mp same).symm
  | cons first rest ih =>
      cases events with
      | nil => simp at same
      | cons arrived others =>
          have behind := List.pairwise_cons.mp inOrder.ordered
          by_cases equal : first = arrived
          · subst equal
            have remaining := ih linked.tail same.cons_inv (inOrder.sublist (List.sublist_cons_self _ _))
            rw [remaining]
          · -- What arrives first has no parent on the chain, so it is the first one there too.
            have later : arrived ∈ rest := by
              rcases List.mem_cons.mp (same.symm.subset List.mem_cons_self) with head | tail
              · exact absurd head.symm equal
              · exact tail
            obtain ⟨parent, member, named⟩ := exists_predecessor linked later
            rcases List.mem_cons.mp (same.subset member) with self | after
            · subst self
              exact absurd named (inOrder.apart _ List.mem_cons_self)
            · exact absurd named (behind.1 parent after)

theorem SelfChains.inOrder {events : List Event} (chains : SelfChains events) (order : ParentsFirst events)
    (node : NodeId) :
    (events.filter fun event => decide (event.creator = node)).IsChain fun earlier later =>
      later.selfParent = some earlier.descriptor ∧ Tipset.isBelow earlier.nGen later.nGen = true := by
  by_cases present : node ∈ events.map Event.creator
  · obtain ⟨chain, same, linked⟩ := chains node present
    have parents : chain.IsChain fun earlier later => earlier.descriptor ∈ later.parents :=
      linked.imp fun _ _ link => mem_parents_of_selfParent link.1
    rw [← eq_of_perm_of_parentsFirst parents same (order.sublist List.filter_sublist)]
    exact linked
  · have nobody : events.filter (fun event => decide (event.creator = node)) = [] := by
      simpa [List.filter_eq_nil_iff] using present
    simp [nobody]

structure Tips (tracked : ChildlessEvents) (events : List Event) : Prop where
  childless : ∀ descriptor event, tracked.childless.find? descriptor = some event ↔
    event ∈ events ∧ event.descriptor = descriptor ∧ ∀ child ∈ events, descriptor ∉ child.parents
  newest : ∀ node event, tracked.newest.find? node = some event →
    (events.filter fun event => decide (event.creator = node)).getLast? = some event

theorem Tips.add {tracked : ChildlessEvents} {events : List Event} (tips : Tips tracked events) {event : Event}
    (continues : Continues tracked event) (fresh : event.descriptor ∉ events.map Event.descriptor)
    (unnamed : ∀ child ∈ events, event.descriptor ∉ child.parents) :
    Tips (tracked.add event) (events ++ [event]) := by
  constructor
  · intro descriptor found
    rw [continues.find?_add]
    constructor
    · intro held
      split at held
      · simp at held
      rename_i notParent
      split at held
      · rename_i own
        cases held
        subst own
        refine ⟨by simp, rfl, ?_⟩
        intro child member
        rcases List.mem_append.mp member with earlier | last
        · exact unnamed child earlier
        · exact (List.mem_singleton.mp last) ▸ notParent
      · obtain ⟨member, named, childless⟩ := (tips.childless descriptor found).mp held
        refine ⟨List.mem_append_left _ member, named, ?_⟩
        intro child listed
        rcases List.mem_append.mp listed with earlier | last
        · exact childless child earlier
        · exact (List.mem_singleton.mp last) ▸ notParent
    · rintro ⟨member, rfl, childless⟩
      rw [if_neg (childless event (by simp))]
      rcases List.mem_append.mp member with earlier | last
      · rw [if_neg]
        · apply (tips.childless _ found).mpr
          exact ⟨earlier, rfl, fun child listed => childless child (List.mem_append_left _ listed)⟩
        · exact fun same => fresh (same ▸ List.mem_map_of_mem earlier)
      · rw [List.mem_singleton.mp last, if_pos rfl]
  · intro node found held
    rcases continues.newest_add held with ⟨own, same⟩ | ⟨other, before⟩
    · simp [List.filter_append, own, same]
    · simpa [List.filter_append, other] using tips.newest node found before

theorem tips_of_arrivals (events : List Event) (once : (events.map Event.descriptor).Nodup)
    (chains : ∀ node, (events.filter fun event => decide (event.creator = node)).IsChain fun earlier later =>
      later.selfParent = some earlier.descriptor ∧ Tipset.isBelow earlier.nGen later.nGen = true)
    (inOrder : ParentsFirst events) : Tips (events.foldl ChildlessEvents.add empty) events := by
  induction events using List.reverseRecOn with
  | nil => constructor <;> simp [empty]
  | append_singleton events event ih =>
      have distinct : (events.map Event.descriptor ++ [event.descriptor]).Nodup := by simpa using once
      have apart := List.nodup_append.mp distinct
      have behind := List.pairwise_append.mp inOrder.ordered
      have before : ∀ node, (events.filter fun event => decide (event.creator = node)).IsChain
          fun earlier later =>
            later.selfParent = some earlier.descriptor ∧ Tipset.isBelow earlier.nGen later.nGen = true := by
        intro node
        have whole := chains node
        rw [List.filter_append] at whole
        exact (List.isChain_append.mp whole).1
      have tips := ih apart.1 before (inOrder.sublist (List.sublist_append_left _ _))
      rw [List.foldl_append, List.foldl_cons, List.foldl_nil]
      apply tips.add
      · constructor
        · intro known remembered
          have last := tips.newest event.creator known remembered
          have whole := chains event.creator
          simp only [List.filter_append, List.isChain_append] at whole
          obtain ⟨own, below⟩ := whole.2.2 known (by simp [last]) event (by simp)
          exact ⟨mem_parents_of_selfParent own, below⟩
        · exact inOrder.apart event (by simp)
      · exact fun member => apart.2.2 _ member _ (List.mem_singleton_self _) rfl
      · exact fun child member => behind.2.2 child member event (List.mem_singleton_self _)

theorem SelfChains.perm {events others : List Event} (chains : SelfChains events) (same : others.Perm events) :
    SelfChains others := by
  intro node present
  obtain ⟨chain, perm, linked⟩ := chains node ((same.map Event.creator).subset present)
  exact ⟨chain, perm.trans (same.filter _).symm, linked⟩

/-- When distinct events, each creator's being one chain with rising numbers, arrive one by one and behind their
parents, the childless ones are in the end just those that no event names as a parent; and any two such orders
end with the same childless events. -/
theorem childless_events_are_the_tips (events : List Event) (once : (events.map Event.descriptor).Nodup)
    (chains : SelfChains events) (inOrder : ParentsFirst events) :
    (∀ event, event ∈ (events.foldl ChildlessEvents.add empty).events ↔
      event ∈ events ∧ ∀ child ∈ events, event.descriptor ∉ child.parents) ∧
      ∀ others : List Event, others.Perm events → ParentsFirst others →
        ∀ event, event ∈ (others.foldl ChildlessEvents.add empty).events ↔
          event ∈ (events.foldl ChildlessEvents.add empty).events := by
  have exact_ : ∀ list : List Event, list.Perm events → ParentsFirst list → ∀ event,
      event ∈ (list.foldl ChildlessEvents.add empty).events ↔
        event ∈ list ∧ ∀ child ∈ list, event.descriptor ∉ child.parents := by
    intro list same order event
    have tips := tips_of_arrivals list ((same.map Event.descriptor).nodup_iff.mpr once)
      ((chains.perm same).inOrder order) order
    rw [ChildlessEvents.events, Table.mem_values_iff]
    constructor
    · rintro ⟨descriptor, found⟩
      obtain ⟨member, rfl, childless⟩ := (tips.childless descriptor event).mp found
      exact ⟨member, childless⟩
    · rintro ⟨member, childless⟩
      exact ⟨event.descriptor, (tips.childless _ event).mpr ⟨member, rfl, childless⟩⟩
  refine ⟨exact_ events (List.Perm.refl _) inOrder, ?_⟩
  intro others same order event
  rw [exact_ others same order, exact_ events (List.Perm.refl _) inOrder]
  simp only [same.mem_iff]

def wovenEvent (creator : UInt64) (selfParent : Option Event) (others : List Event) (nGen : Generation) : Event :=
  (Event.unsigned
    ⟨⟨creator⟩, selfParent.map Event.descriptor, others.map Event.descriptor, 1, .epoch, []⟩).withNGen nGen

def wovenEvents : List Event :=
  let first := wovenEvent 1 none [] 0
  let second := wovenEvent 2 none [] 3
  [first, second, wovenEvent 1 (some first) [second] 4, wovenEvent 3 none [first] 1, wovenEvent 2 (some second) [] 5]

def rewovenEvents : List Event := [1, 4, 0, 3, 2].filterMap fun place => wovenEvents[place]?

theorem wovenEvents_leave_three_tips :
    (∀ event, event ∈ (wovenEvents.foldl ChildlessEvents.add empty).events ↔ event ∈ wovenEvents.drop 2) ∧
      ∀ event, event ∈ (rewovenEvents.foldl ChildlessEvents.add empty).events ↔ event ∈ wovenEvents.drop 2 := by
  have facts :
      (wovenEvents.map Event.descriptor).Nodup ∧
        (∀ node ∈ wovenEvents.map Event.creator,
          (wovenEvents.filter fun event => decide (event.creator = node)).IsChain fun earlier later =>
            later.selfParent = some earlier.descriptor ∧ Tipset.isBelow earlier.nGen later.nGen = true) ∧
        wovenEvents.Pairwise (fun earlier later => later.descriptor ∉ earlier.parents) ∧
        (∀ event ∈ wovenEvents, event.descriptor ∉ event.parents) ∧
        rewovenEvents.Pairwise (fun earlier later => later.descriptor ∉ earlier.parents) ∧
        rewovenEvents.Perm wovenEvents ∧
        (wovenEvents.filter fun event => wovenEvents.all fun child => decide (event.descriptor ∉ child.parents)) =
          wovenEvents.drop 2 := by
    decide +kernel
  obtain ⟨once, chained, ordered, apart, reordered, same, tips⟩ := facts
  have chains : SelfChains wovenEvents := fun node present => ⟨_, List.Perm.refl _, chained node present⟩
  have result := childless_events_are_the_tips wovenEvents once chains ⟨ordered, apart⟩
  have childless : ∀ event, event ∈ (wovenEvents.foldl ChildlessEvents.add empty).events ↔
      event ∈ wovenEvents.drop 2 := by
    intro event
    rw [result.1, ← tips, List.mem_filter]
    simp
  refine ⟨childless, ?_⟩
  intro event
  rw [result.2 rewovenEvents same ⟨reordered, fun event member => apart event (same.subset member)⟩, childless]

end ChildlessEvents

/-! ### Creators -/

namespace Creator

variable {σ : Type}

theorem sole_history (seat : Seat) (mode : AncientMode) (settings : CreationSettings)
    (actions : List (Action σ)) :
    ((Creator.start seat mode settings).history actions).creator.childless.Sole := by
  apply history_induction _ actions (motive := fun chronicle => chronicle.creator.childless.Sole)
  · exact .nothing
  · intro chronicle sole action _
    cases action with
    | register event =>
        rcases chronicle.creator.register_cases event with same | ⟨_, _, _, replaced⟩ | ⟨_, _, peer⟩
        · simpa only [Chronicle.next, same] using sole
        · simpa only [Chronicle.next, replaced] using sole.retire event.otherParents
        · simpa only [Chronicle.next, peer] using sole.add event
    | install window => exact sole.prune window
    | attempt surroundings now supply =>
        rcases chronicle.next_attempt_cases surroundings now supply with
          ⟨other, event, after, result, _, _, extended⟩ | ⟨after, result, agrees⟩
        · rw [result, extended.childless]
          exact sole.retire event.otherParents
        · rw [result, agrees.childless]
          exact sole
    | clear => exact .nothing

theorem size_childless_lt {creator : Creator} (stocked : Stocked creator) (sole : creator.childless.Sole) :
    creator.childless.size < creator.seat.roster.size := by
  have inside : creator.childless.events.map Event.creator ⊆
      creator.seat.roster.nodes.erase creator.seat.node := by
    intro node listed
    obtain ⟨event, member, rfl⟩ := List.mem_map.mp listed
    have suitable := stocked.suitable member
    obtain ⟨entry, present, named⟩ := Roster.contains_iff.mp suitable.member
    rw [List.mem_erase_of_ne suitable.other, ← named]
    exact List.mem_map_of_mem present
  have own : creator.seat.node ∈ creator.seat.roster.nodes := by
    obtain ⟨entry, present, named⟩ := Roster.contains_iff.mp creator.seat.member
    exact named ▸ List.mem_map_of_mem present
  have bound := (sole.creators_nodup.subperm inside).length_le
  have members := List.length_pos_of_mem own
  rw [List.length_erase_of_mem own] at bound
  simp only [ChildlessEvents.events, Table.values, Roster.nodes, List.length_map] at bound members
  unfold ChildlessEvents.size Table.size Roster.size
  omega

end Creator

end Hashgraph
