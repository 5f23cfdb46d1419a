import Hashgraph.Proofs.Branches

/-! What pruning leaves of ancient events. One that is childless goes together with its mark, and any event of its
creator can be childless behind that. The mark of an event on which a self event has been built stays under every
window, and keeps out the events of its creator that are not above it. -/

namespace Hashgraph

namespace ChildlessEvents

variable {tracked : ChildlessEvents}

/-- The event is its creator's newest one, but has a child. -/
structure Marked (tracked : ChildlessEvents) (known : Event) : Prop where
  newest : tracked.newest.find? known.creator = some known
  covered : known ∉ tracked.events

def Spares (node : NodeId) : Step → Prop
  | .add event => event.creator ≠ node
  | .retire _ => True
  | .prune _ => True
  | .clear => False

theorem Filed.newest_of_contains (filed : Filed tracked) {descriptor : EventDescriptor}
    (held : tracked.childless.contains descriptor = true) :
    ∃ known ∈ tracked.events, known.descriptor = descriptor ∧
      tracked.newest.find? descriptor.creator = some known := by
  obtain ⟨known, found⟩ := Option.isSome_iff_exists.mp held
  obtain ⟨rfl, newest⟩ := filed.sole descriptor known found
  exact ⟨known, filed.sole.mem_events_iff.mpr found, rfl, newest⟩

theorem Filed.contains_iff (filed : Filed tracked) {known : Event}
    (newest : tracked.newest.find? known.creator = some known) :
    tracked.childless.contains known.descriptor = true ↔ known ∈ tracked.events := by
  constructor
  · intro held
    obtain ⟨other, childless, _, found⟩ := filed.newest_of_contains held
    cases newest.symm.trans found
    exact childless
  · intro childless
    simp [Table.contains, filed.sole.mem_events_iff.mp childless]

theorem contains_perform (filed : Filed tracked) {step : Step} {descriptor : EventDescriptor}
    (held : tracked.childless.contains descriptor = true) (remembered : ¬Forgets tracked descriptor.creator step)
    (unplaced : tracked.placed descriptor.creator step = none) :
    (tracked.perform step).childless.contains descriptor = true ∨
      ∃ parents, step = .retire parents ∧ descriptor ∈ parents := by
  cases step with
  | add event =>
      left
      cases age : tracked.isOutdated event with
      | true => rwa [perform, add_of_outdated age]
      | false =>
          have other : event.creator ≠ descriptor.creator := by
            intro own
            simp [placed, age, own] at unplaced
          have unnamed : descriptor ∉ event.parents := fun named =>
            remembered ⟨age, descriptor, named, rfl, Or.inr ⟨other, held⟩⟩
          rw [perform, add_of_accepted age, Table.contains, find?_foldl_remove, if_neg unnamed]
          exact (contains_replaced filed event descriptor).mpr (Or.inr ⟨other, held⟩)
  | retire parents =>
      by_cases named : descriptor ∈ parents
      · exact Or.inr ⟨parents, rfl, named⟩
      · left
        change (tracked.retire parents).childless.contains descriptor = true
        rwa [Table.contains, find?_retire, if_neg named]
  | prune window =>
      left
      have kept : descriptor ∉ tracked.childless.keys.filter window.isAncient := by
        intro listed
        exact remembered ⟨descriptor, rfl, held, (List.mem_filter.mp listed).2⟩
      change (tracked.prune window).childless.contains descriptor = true
      rwa [Table.contains, prune, find?_foldl_remove, if_neg kept]
  | clear => exact absurd trivial remembered

theorem Marked.of_perform (filed : Filed tracked) {step : Step} {known : Event}
    (marked : Marked (tracked.perform step) known) :
    Marked tracked known ∨ (known ∈ tracked.events ∧ ∃ parents, step = .retire parents ∧ known.descriptor ∈ parents) := by
  obtain ⟨remembered, stored⟩ := (newest_perform_iff filed step known.creator known).mp marked.newest
  rcases Option.or_eq_some_iff.mp stored with fresh | ⟨unplaced, before⟩
  · obtain ⟨rfl, accepted, creator⟩ := placed_eq_some_iff.mp fresh
    refine absurd (mem_events_of_accepted filed accepted ?_) marked.covered
    intro itself
    exact remembered ⟨accepted, known.descriptor, itself, creator, Or.inl rfl⟩
  · by_cases childless : known ∈ tracked.events
    · have held := (filed.contains_iff before).mpr childless
      rcases contains_perform filed held remembered unplaced with still | retired
      · exact absurd (((filed.perform step).contains_iff marked.newest).mp still) marked.covered
      · exact Or.inr ⟨childless, retired⟩
    · exact Or.inl ⟨before, childless⟩

theorem Marked.retired {steps : List Step} {known : Event} (marked : Marked (after steps) known) :
    ∃ before parents since, steps = before ++ .retire parents :: since ∧ known ∈ (after before).events ∧
      known.descriptor ∈ parents := by
  induction steps using List.reverseRecOn with
  | nil => simpa [after, empty] using marked.newest
  | append_singleton steps step ih =>
      rw [after_concat] at marked
      rcases marked.of_perform (filed_after steps) with before | ⟨childless, parents, rfl, named⟩
      · obtain ⟨first, parents, since, rfl, childless, named⟩ := ih before
        exact ⟨first, parents, since ++ [step], by simp, childless, named⟩
      · exact ⟨steps, parents, [], rfl, childless, named⟩

theorem added_of_newest {steps : List Step} {node : NodeId} {known : Event}
    (newest : (after steps).newest.find? node = some known) : .add known ∈ steps := by
  induction steps using List.reverseRecOn with
  | nil => simp [after, empty] at newest
  | append_singleton steps step ih =>
      rw [after_concat, newest_perform_iff (filed_after steps)] at newest
      rcases Option.or_eq_some_iff.mp newest.2 with fresh | ⟨_, before⟩
      · exact List.mem_append_right _ (List.mem_singleton.mpr (placed_eq_some_iff.mp fresh).1.symm)
      · exact List.mem_append_left _ (ih before)

theorem newest_prune_iff (filed : Filed tracked) (window : EventWindow) (node : NodeId) (known : Event) :
    (tracked.prune window).newest.find? node = some known ↔
      tracked.newest.find? node = some known ∧
        (window.isAncient known.descriptor = false ∨ Marked tracked known) := by
  change (tracked.perform (.prune window)).newest.find? node = some known ↔ _
  rw [newest_perform_iff filed]
  simp only [placed, Option.none_or]
  rw [and_comm]
  refine and_congr_right fun newest => ?_
  obtain rfl := filed.named node known newest
  constructor
  · intro remembered
    by_cases childless : known ∈ tracked.events
    · left
      rw [← Bool.not_eq_true]
      intro ancient
      exact remembered ⟨known.descriptor, rfl, (filed.contains_iff newest).mpr childless, ancient⟩
    · exact Or.inr ⟨newest, childless⟩
  · rintro stays ⟨descriptor, creator, held, ancient⟩
    obtain ⟨other, childless, rfl, found⟩ := filed.newest_of_contains held
    rw [creator, newest] at found
    cases found
    rcases stays with young | marked
    · simp [young] at ancient
    · exact marked.covered childless

def Covered (tracked : ChildlessEvents) (node : NodeId) : Prop :=
  ∀ known, tracked.newest.find? node = some known → known ∉ tracked.events

/-- Without a childless event, a member is out of reach for what happens to others. -/
theorem Covered.perform {node : NodeId} (covered : Covered tracked node) (filed : Filed tracked) {step : Step}
    (spared : Spares node step) :
    (tracked.perform step).newest.find? node = tracked.newest.find? node ∧ Covered (tracked.perform step) node := by
  have nothing : ∀ descriptor, descriptor.creator = node → tracked.childless.contains descriptor ≠ true := by
    rintro descriptor rfl held
    obtain ⟨known, childless, _, newest⟩ := filed.newest_of_contains held
    exact covered known newest childless
  have remembered : ¬Forgets tracked node step := by
    cases step with
    | add event =>
        rintro ⟨_, parent, _, creator, rfl | ⟨_, held⟩⟩
        · exact spared creator
        · exact nothing parent creator held
    | retire parents => exact id
    | prune window =>
        rintro ⟨descriptor, creator, held, _⟩
        exact nothing descriptor creator held
    | clear => exact spared.elim
  have unplaced : tracked.placed node step = none := by
    cases step with
    | add event => exact if_neg fun accepted => spared accepted.2
    | retire parents => rfl
    | prune window => rfl
    | clear => rfl
  have same : (tracked.perform step).newest.find? node = tracked.newest.find? node := by
    ext known
    rw [newest_perform_iff filed, unplaced, Option.none_or]
    exact and_iff_right remembered
  refine ⟨same, ?_⟩
  intro known newest childless
  rcases find?_perform ((filed.perform step).sole.mem_events_iff.mp childless) with held | ⟨rfl, _⟩
  · exact covered known (same ▸ newest) (filed.sole.mem_events_iff.mpr held)
  · exact spared ((filed.perform _).named node known newest)

theorem Covered.foldl {node : NodeId} (covered : Covered tracked node) (filed : Filed tracked) {since : List Step}
    (spared : ∀ step ∈ since, Spares node step) :
    (since.foldl ChildlessEvents.perform tracked).newest.find? node = tracked.newest.find? node ∧
      Covered (since.foldl ChildlessEvents.perform tracked) node := by
  induction since generalizing tracked with
  | nil => exact ⟨rfl, covered⟩
  | cons step rest ih =>
      rw [List.forall_mem_cons] at spared
      obtain ⟨same, still⟩ := covered.perform filed spared.1
      obtain ⟨later, last⟩ := ih still (filed.perform step) spared.2
      exact ⟨later.trans same, last⟩

theorem Covered.mem_events_add_iff (filed : Filed tracked) {event : Event} (covered : Covered tracked event.creator)
    (apart : event.descriptor ∉ event.parents) :
    event ∈ (tracked.add event).events ↔
      ∀ known, tracked.newest.find? event.creator = some known → Tipset.isBelow known.nGen event.nGen = true := by
  rw [← isOutdated_eq_false_iff]
  constructor
  · intro childless
    rw [← Bool.not_eq_true]
    intro outdated
    rw [add_of_outdated outdated] at childless
    have held := filed.sole.mem_events_iff.mp childless
    exact covered event (filed.sole _ event held).2 childless
  · exact fun accepted => mem_events_of_accepted filed accepted apart

/-- Behind a window no childless event is ancient, and the newest event of a member is gone just if it was childless
and ancient. Those that stay although they are ancient have been retired by self events. So an event whose
creator's earlier ones are all ancient is childless, whatever its number, unless one of them is marked: then it
has to be above that one. -/
theorem pruning_forgets_all_but_marked_events (steps : List Step) (window : EventWindow) :
    let tracked := after steps
    let pruned := after (steps ++ [.prune window])
    (∀ event ∈ pruned.events, window.isAncient event.descriptor = false) ∧
      (∀ node known, pruned.newest.find? node = some known ↔
        tracked.newest.find? node = some known ∧
          (window.isAncient known.descriptor = false ∨ Marked tracked known)) ∧
      (∀ known, Marked tracked known → ∃ before parents since, steps = before ++ .retire parents :: since ∧
        known ∈ (after before).events ∧ known.descriptor ∈ parents) ∧
      ∀ since event,
        (∀ earlier, .add earlier ∈ steps → earlier.creator = event.creator →
          window.isAncient earlier.descriptor = true) →
        (∀ step ∈ since, Spares event.creator step) → event.descriptor ∉ event.parents →
          (event ∈ (after (steps ++ .prune window :: since ++ [.add event])).events ↔
            ∀ known, Marked tracked known → known.creator = event.creator →
              Tipset.isBelow known.nGen event.nGen = true) := by
  intro tracked pruned
  have filed : Filed tracked := filed_after steps
  have behindWindow : pruned = tracked.prune window := after_concat steps (.prune window)
  rw [behindWindow]
  refine ⟨?_, newest_prune_iff filed window, fun _ marked => marked.retired, ?_⟩
  · intro event childless
    have held := (filed.perform (.prune window)).sole.mem_events_iff.mp childless
    exact (find?_prune held).1
  · intro since event ancient spared apart
    -- Of the creator's events only a marked one is left behind the window.
    have remaining : ∀ known, (tracked.prune window).newest.find? event.creator = some known ↔
        Marked tracked known ∧ known.creator = event.creator := by
      intro known
      rw [newest_prune_iff filed]
      constructor
      · rintro ⟨newest, young | marked⟩
        · have creator := filed.named _ known newest
          simp [ancient known (added_of_newest newest) creator] at young
        · exact ⟨marked, filed.named _ known newest⟩
      · rintro ⟨marked, creator⟩
        exact ⟨creator ▸ marked.newest, Or.inr marked⟩
    have filedPruned : Filed (tracked.prune window) := filed.perform (.prune window)
    have covered : Covered (tracked.prune window) event.creator := by
      intro known newest childless
      have held := filedPruned.sole.mem_events_iff.mp childless
      refine ((remaining known).mp newest).1.covered (filed.sole.mem_events_iff.mpr ?_)
      exact (find?_prune held).2
    have reached : after (steps ++ .prune window :: since) =
        since.foldl ChildlessEvents.perform (tracked.prune window) := after_append steps (.prune window :: since)
    obtain ⟨same, still⟩ := covered.foldl filedPruned spared
    rw [after_concat]
    change event ∈ ((after (steps ++ .prune window :: since)).add event).events ↔ _
    rw [Covered.mem_events_add_iff (filed_after _) (reached ▸ still) apart, reached, same]
    simp only [remaining, and_imp]

def secondRound : EventWindow := ⟨1, 2, 2, .birthRoundThreshold⟩

theorem pruned_event_lets_branch_in :
    let (first, branch, _) := forkedEvents
    branch ∈ (after [.add first, .prune secondRound, .add branch]).events ∧
      branch ∉ (after [.add first, .retire [first.descriptor], .prune secondRound, .add branch]).events := by
  have facts :
      secondRound.isAncient forkedEvents.1.descriptor = true ∧
        forkedEvents.2.1.descriptor ∉ forkedEvents.2.1.parents ∧
        forkedEvents.2.1.creator = forkedEvents.1.creator ∧
        Tipset.isBelow forkedEvents.1.nGen forkedEvents.2.1.nGen = false ∧
        forkedEvents.1 ∈ (after [.add forkedEvents.1]).events ∧
        (after [.add forkedEvents.1, .retire [forkedEvents.1.descriptor]]).newest.find? forkedEvents.1.creator =
          some forkedEvents.1 ∧
        forkedEvents.1 ∉ (after [.add forkedEvents.1, .retire [forkedEvents.1.descriptor]]).events := by
    decide +kernel
  obtain ⟨ancient, apart, creator, notAbove, childless, newest, covered⟩ := facts
  constructor
  · refine ((pruning_forgets_all_but_marked_events [.add forkedEvents.1] secondRound).2.2.2 [] forkedEvents.2.1
      ?_ (by simp) apart).mpr ?_
    · intro earlier listed _
      cases List.mem_singleton.mp listed
      exact ancient
    · intro known marked
      cases List.mem_singleton.mp (added_of_newest marked.newest)
      exact absurd childless marked.covered
  · intro returned
    have above := ((pruning_forgets_all_but_marked_events
      [.add forkedEvents.1, .retire [forkedEvents.1.descriptor]] secondRound).2.2.2 [] forkedEvents.2.1
      ?_ (by simp) apart).mp returned forkedEvents.1 ⟨newest, covered⟩ creator.symm
    · exact Bool.noConfusion (notAbove.symm.trans above)
    · intro earlier listed _
      simp only [List.mem_cons, Step.add.injEq, reduceCtorEq, List.not_mem_nil, or_false] at listed
      exact listed ▸ ancient

/-- The mark of an event that a self event has retired stays behind a window under which it is ancient, and keeps
out a lower event of its creator. -/
theorem marks_outlive_windows :
    ¬∀ (steps : List Step) (window : EventWindow),
      (∀ step ∈ steps, (∃ added, step = .add added) ∨ (∃ parents, step = .retire parents) ∨
        ∃ installed, step = .prune installed) →
      let pruned := (after steps).prune window
      (∀ event ∈ pruned.events, window.isAncient event.descriptor = false) ∧
        (∀ node known, pruned.newest.find? node = some known → window.isAncient known.descriptor = false) ∧
        ∀ event, (∀ earlier, .add earlier ∈ steps → earlier.creator = event.creator →
            window.isAncient earlier.descriptor = true) →
          window.isAncient event.descriptor = false → event.descriptor ∉ event.parents →
            event ∈ (pruned.add event).events := by
  intro claimed
  have facts :
      secondRound.isAncient forkedEvents.1.descriptor = true ∧
        secondRound.isAncient forkedEvents.2.1.descriptor = false ∧
        forkedEvents.2.1.descriptor ∉ forkedEvents.2.1.parents ∧
        forkedEvents.2.1 ∉ (((after [.add forkedEvents.1, .retire [forkedEvents.1.descriptor]]).prune
          secondRound).add forkedEvents.2.1).events := by
    decide +kernel
  obtain ⟨ancient, young, apart, missing⟩ := facts
  obtain ⟨_, _, returns⟩ := claimed [.add forkedEvents.1, .retire [forkedEvents.1.descriptor]] secondRound
    (by simp)
  refine missing (returns forkedEvents.2.1 ?_ young apart)
  intro earlier listed _
  simp only [List.mem_cons, Step.add.injEq, reduceCtorEq, List.not_mem_nil, or_false] at listed
  exact listed ▸ ancient

end ChildlessEvents

end Hashgraph
