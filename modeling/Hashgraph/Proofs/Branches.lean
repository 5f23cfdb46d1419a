import Hashgraph.Proofs.ChildlessTips

/-! Branches of one creator. An event of a creator becomes childless only above every event of the creator that
has been childless before, as long as the creator is not forgotten: an event of another member that names its
childless event makes it so, and events of any height are childless again behind that. -/

namespace Hashgraph

namespace ChildlessEvents

inductive Step where
  | add (event : Event)
  | retire (parents : List EventDescriptor)
  | prune (window : EventWindow)
  | clear

def perform (tracked : ChildlessEvents) : Step → ChildlessEvents
  | .add event => tracked.add event
  | .retire parents => tracked.retire parents
  | .prune window => tracked.prune window
  | .clear => empty

def after (steps : List Step) : ChildlessEvents := steps.foldl perform empty

theorem after_concat (steps : List Step) (step : Step) :
    after (steps ++ [step]) = (after steps).perform step := by
  simp [after]

theorem after_append (before since : List Step) : after (before ++ since) = since.foldl perform (after before) := by
  simp [after]

/-- Whether a step forgets a member: an event that is not ignored does when it names the member's childless
event, or itself, and a window does when that event is ancient. -/
def Forgets (tracked : ChildlessEvents) (node : NodeId) : Step → Prop
  | .add event => tracked.isOutdated event = false ∧ ∃ parent ∈ event.parents, parent.creator = node ∧
      (parent = event.descriptor ∨ event.creator ≠ node ∧ tracked.childless.contains parent = true)
  | .retire _ => False
  | .prune window => ∃ descriptor, descriptor.creator = node ∧ tracked.childless.contains descriptor = true ∧
      window.isAncient descriptor = true
  | .clear => True

def Remembers (node : NodeId) : ChildlessEvents → List Step → Prop
  | _, [] => True
  | tracked, step :: rest => ¬Forgets tracked node step ∧ Remembers node (tracked.perform step) rest

theorem remembers_concat (node : NodeId) (tracked : ChildlessEvents) (steps : List Step) (step : Step) :
    Remembers node tracked (steps ++ [step]) ↔
      Remembers node tracked steps ∧ ¬Forgets (steps.foldl perform tracked) node step := by
  induction steps generalizing tracked with
  | nil => simp [Remembers]
  | cons first rest ih => simp [Remembers, ih, and_assoc]

/-- An event that has been childless, and whose creator has not been forgotten since. -/
def Stands (steps : List Step) (known : Event) : Prop :=
  ∃ before since, steps = before ++ since ∧ known ∈ (after before).events ∧
    Remembers known.creator (after before) since

theorem stands_concat (steps : List Step) (step : Step) (known : Event) :
    Stands (steps ++ [step]) known ↔ known ∈ (after (steps ++ [step])).events ∨
      (Stands steps known ∧ ¬Forgets (after steps) known.creator step) := by
  constructor
  · rintro ⟨before, since, whole, childless, remembered⟩
    rcases List.eq_nil_or_concat since with rfl | ⟨earlier, last, rfl⟩
    · rw [List.append_nil] at whole
      exact Or.inl (whole ▸ childless)
    · rw [List.concat_eq_append, ← List.append_assoc] at whole
      obtain ⟨rfl, same⟩ := List.append_inj' whole rfl
      cases same
      rw [List.concat_eq_append, remembers_concat, ← after_append] at remembered
      exact Or.inr ⟨⟨before, earlier, rfl, childless, remembered.1⟩, remembered.2⟩
  · rintro (childless | ⟨⟨before, since, rfl, childless, kept⟩, still⟩)
    · exact ⟨steps ++ [step], [], by simp, childless, trivial⟩
    · refine ⟨before, since ++ [step], by simp, childless, ?_⟩
      rw [remembers_concat, ← after_append]
      exact ⟨kept, still⟩

structure Filed (tracked : ChildlessEvents) : Prop where
  sole : Sole tracked
  named : ∀ node event, tracked.newest.find? node = some event → event.creator = node

theorem Sole.mem_events_iff {tracked : ChildlessEvents} (sole : Sole tracked) {event : Event} :
    event ∈ tracked.events ↔ tracked.childless.find? event.descriptor = some event := by
  rw [events, Table.mem_values_iff]
  constructor
  · rintro ⟨descriptor, found⟩
    rwa [(sole descriptor event found).1]
  · exact fun found => ⟨_, found⟩

theorem newest_remove_iff (tracked : ChildlessEvents) (descriptor : EventDescriptor) (node : NodeId)
    (event : Event) :
    (tracked.remove descriptor).newest.find? node = some event ↔
      tracked.newest.find? node = some event ∧
        ¬(descriptor.creator = node ∧ tracked.childless.contains descriptor = true) := by
  unfold remove
  by_cases held : tracked.childless.contains descriptor = true
  · by_cases own : descriptor.creator = node
    · simp [held, own]
    · have other : node ≠ descriptor.creator := fun same => own same.symm
      simp [held, own, other]
  · simp [held]

theorem newest_foldl_remove_iff (tracked : ChildlessEvents) (descriptors : List EventDescriptor) (node : NodeId)
    (event : Event) :
    (descriptors.foldl remove tracked).newest.find? node = some event ↔
      tracked.newest.find? node = some event ∧
        ∀ descriptor ∈ descriptors, ¬(descriptor.creator = node ∧ tracked.childless.contains descriptor = true) := by
  induction descriptors generalizing tracked with
  | nil => simp
  | cons first rest ih =>
      have contains_remove : ∀ other, (tracked.remove first).childless.contains other = true ↔
          other ≠ first ∧ tracked.childless.contains other = true := by
        intro other
        simp only [Table.contains, find?_remove]
        split
        · rename_i same
          simp [same]
        · rename_i different
          simp [different]
      rw [List.foldl_cons, ih, newest_remove_iff, and_assoc]
      refine and_congr_right fun _ => ?_
      simp only [contains_remove, List.forall_mem_cons]
      refine and_congr_right fun gone => ?_
      constructor
      · rintro still other later ⟨own, held⟩
        by_cases same : other = first
        · subst same
          exact gone ⟨own, held⟩
        · exact still other later ⟨own, same, held⟩
      · rintro still other later ⟨own, _, held⟩
        exact still other later ⟨own, held⟩

def replaced (tracked : ChildlessEvents) (event : Event) : ChildlessEvents :=
  (match tracked.newest.find? event.creator with
    | some known => tracked.remove known.descriptor
    | none => tracked).put event

theorem add_of_accepted {tracked : ChildlessEvents} {event : Event}
    (accepted : tracked.isOutdated event = false) :
    tracked.add event = event.parents.foldl remove (tracked.replaced event) := by
  rw [add, accepted, if_neg (by simp)]
  rfl

theorem add_of_outdated {tracked : ChildlessEvents} {event : Event} (outdated : tracked.isOutdated event = true) :
    tracked.add event = tracked := by
  rw [add, if_pos outdated]

theorem newest_replaced {tracked : ChildlessEvents} (filed : Filed tracked) (event : Event) (node : NodeId) :
    (tracked.replaced event).newest.find? node =
      if event.creator = node then some event else tracked.newest.find? node := by
  rw [replaced, put, Table.find?_insert]
  split
  · rfl
  rename_i other
  split
  · rename_i known remembered
    have own := filed.named _ known remembered
    ext found
    rw [newest_remove_iff]
    constructor
    · exact And.left
    · intro held
      refine ⟨held, ?_⟩
      rintro ⟨same, _⟩
      exact other (own.symm.trans same)
  · rfl

theorem contains_replaced {tracked : ChildlessEvents} (filed : Filed tracked) (event : Event)
    (descriptor : EventDescriptor) :
    (tracked.replaced event).childless.contains descriptor = true ↔
      descriptor = event.descriptor ∨
        (event.creator ≠ descriptor.creator ∧ tracked.childless.contains descriptor = true) := by
  rw [replaced, put]
  simp only [Table.contains, Table.find?_insert]
  by_cases itself : event.descriptor = descriptor
  · simp [itself]
  have different : descriptor ≠ event.descriptor := fun same => itself same.symm
  simp only [itself, different, if_false, false_or]
  -- A childless event of the same creator is the one that is replaced.
  have replaces : ∀ found, tracked.childless.find? descriptor = some found →
      event.creator = descriptor.creator → tracked.newest.find? event.creator = some found := by
    intro found held same
    obtain ⟨named, newest⟩ := filed.sole descriptor found held
    have creator : found.creator = event.creator := by
      rw [same, ← named]
      rfl
    rwa [creator] at newest
  split
  · rename_i known remembered
    rw [find?_remove]
    split
    · rename_i same
      have own := filed.named _ known remembered
      have creator : event.creator = descriptor.creator := by
        rw [← own, same]
        rfl
      simp [creator]
    · rename_i other
      constructor
      · intro held
        refine ⟨?_, held⟩
        intro same
        obtain ⟨found, stored⟩ := Option.isSome_iff_exists.mp held
        have equal := replaces found stored same
        rw [remembered] at equal
        cases equal
        exact other (filed.sole descriptor known stored).1.symm
      · exact And.right
  · rename_i forgotten
    constructor
    · intro held
      refine ⟨?_, held⟩
      intro same
      obtain ⟨found, stored⟩ := Option.isSome_iff_exists.mp held
      simp [forgotten] at replaces
      exact replaces found stored same
    · exact And.right

theorem newest_add_iff {tracked : ChildlessEvents} (filed : Filed tracked) {event : Event}
    (accepted : tracked.isOutdated event = false) (node : NodeId) (known : Event) :
    (tracked.add event).newest.find? node = some known ↔
      ¬Forgets tracked node (.add event) ∧
        (if event.creator = node then some event else tracked.newest.find? node) = some known := by
  have named : ∀ parent : EventDescriptor,
      (parent.creator = node ∧ (tracked.replaced event).childless.contains parent = true) ↔
        parent.creator = node ∧
          (parent = event.descriptor ∨ event.creator ≠ node ∧ tracked.childless.contains parent = true) := by
    intro parent
    rw [contains_replaced filed]
    refine and_congr_right fun own => ?_
    rw [own]
  rw [add_of_accepted accepted, newest_foldl_remove_iff, newest_replaced filed, and_comm]
  simp only [Forgets, accepted, true_and, named, not_exists, not_and]

theorem find?_perform {tracked : ChildlessEvents} {step : Step} {descriptor : EventDescriptor} {event : Event}
    (held : (tracked.perform step).childless.find? descriptor = some event) :
    tracked.childless.find? descriptor = some event ∨ (step = .add event ∧ descriptor = event.descriptor) := by
  cases step with
  | add added =>
      rcases find?_add held with before | ⟨own, same⟩
      · exact Or.inl before
      · exact Or.inr ⟨congrArg Step.add same.symm, same ▸ own⟩
  | retire parents =>
      change (tracked.retire parents).childless.find? descriptor = some event at held
      rw [find?_retire] at held
      split at held
      · simp at held
      · exact Or.inl held
  | prune window => exact Or.inl (find?_prune held).2
  | clear => simp [perform, empty] at held

def placed (tracked : ChildlessEvents) (node : NodeId) : Step → Option Event
  | .add event => if tracked.isOutdated event = false ∧ event.creator = node then some event else none
  | _ => none

theorem placed_eq_some_iff {tracked : ChildlessEvents} {node : NodeId} {step : Step} {event : Event} :
    tracked.placed node step = some event ↔
      step = .add event ∧ tracked.isOutdated event = false ∧ event.creator = node := by
  unfold placed
  cases step with
  | add added =>
      simp only [Step.add.injEq]
      split
      · rename_i accepted
        constructor
        · intro same
          cases same
          exact ⟨rfl, accepted⟩
        · rintro ⟨rfl, _⟩
          rfl
      · rename_i refused
        simp only [reduceCtorEq, false_iff]
        rintro ⟨rfl, accepted⟩
        exact refused accepted
  | retire parents => simp
  | prune window => simp
  | clear => simp

theorem newest_perform_iff {tracked : ChildlessEvents} (filed : Filed tracked) (step : Step) (node : NodeId)
    (known : Event) :
    (tracked.perform step).newest.find? node = some known ↔
      ¬Forgets tracked node step ∧ (tracked.placed node step).or (tracked.newest.find? node) = some known := by
  cases step with
  | add event =>
      cases age : tracked.isOutdated event with
      | true => simp [perform, add_of_outdated age, Forgets, placed, age]
      | false =>
          rw [perform, newest_add_iff filed age]
          by_cases own : event.creator = node <;> simp [placed, age, own]
  | retire parents => simp [perform, retire, Forgets, placed]
  | prune window =>
      have ancient : (∀ descriptor ∈ tracked.childless.keys.filter window.isAncient,
          ¬(descriptor.creator = node ∧ tracked.childless.contains descriptor = true)) ↔
            ¬Forgets tracked node (.prune window) := by
        simp only [List.mem_filter, Table.mem_keys_iff, Forgets, not_exists, not_and]
        refine forall_congr' fun descriptor => ?_
        tauto
      change (tracked.prune window).newest.find? node = some known ↔ _
      rw [prune, newest_foldl_remove_iff, ancient, and_comm]
      simp [placed]
  | clear => simp [perform, empty, Forgets]

theorem Filed.nothing : Filed empty := ⟨.nothing, by simp [empty]⟩

theorem Filed.perform {tracked : ChildlessEvents} (filed : Filed tracked) (step : Step) :
    Filed (tracked.perform step) where
  sole := by
    cases step with
    | add event => exact filed.sole.add event
    | retire parents => exact filed.sole.retire parents
    | prune window => exact filed.sole.prune window
    | clear => exact .nothing
  named := by
    intro node event found
    obtain ⟨_, stored⟩ := (newest_perform_iff filed step node event).mp found
    rcases Option.or_eq_some_iff.mp stored with fresh | ⟨_, before⟩
    · exact (placed_eq_some_iff.mp fresh).2.2
    · exact filed.named node event before

theorem filed_after (steps : List Step) : Filed (after steps) :=
  List.foldlRecOn steps _ Filed.nothing fun _ filed step _ => filed.perform step

/-! ### Marks -/

theorem mem_events_of_accepted {tracked : ChildlessEvents} (filed : Filed tracked) {event : Event}
    (accepted : tracked.isOutdated event = false) (apart : event.descriptor ∉ event.parents) :
    event ∈ (tracked.add event).events := by
  rw [(filed.sole.add event).mem_events_iff, add_of_accepted accepted, find?_foldl_remove, if_neg apart, replaced,
    put, Table.find?_insert, if_pos rfl]

theorem isOutdated_eq_false_iff (tracked : ChildlessEvents) (event : Event) :
    tracked.isOutdated event = false ↔
      ∀ known, tracked.newest.find? event.creator = some known → Tipset.isBelow known.nGen event.nGen = true := by
  rw [isOutdated_eq]
  cases tracked.newest.find? event.creator <;> simp

theorem stands_of_newest (steps : List Step) {node : NodeId} {known : Event}
    (newest : (after steps).newest.find? node = some known) : Stands steps known := by
  induction steps using List.reverseRecOn generalizing known with
  | nil => simp [after, empty] at newest
  | append_singleton steps step ih =>
      have filed := filed_after steps
      have own := (filed_after (steps ++ [step])).named node known newest
      rw [after_concat, newest_perform_iff filed] at newest
      obtain ⟨remembered, stored⟩ := newest
      rw [stands_concat]
      rcases Option.or_eq_some_iff.mp stored with fresh | ⟨_, before⟩
      · obtain ⟨rfl, accepted, creator⟩ := placed_eq_some_iff.mp fresh
        rw [after_concat]
        refine Or.inl (mem_events_of_accepted filed accepted ?_)
        intro itself
        exact remembered ⟨accepted, known.descriptor, itself, creator, Or.inl rfl⟩
      · exact Or.inr ⟨ih before, own ▸ remembered⟩

theorem newest_of_stands (steps : List Step) {known : Event} (stands : Stands steps known) :
    ∃ newest, (after steps).newest.find? known.creator = some newest ∧
      Tipset.height known.nGen ≤ Tipset.height newest.nGen := by
  induction steps using List.reverseRecOn with
  | nil =>
      obtain ⟨before, since, whole, childless, _⟩ := stands
      rw [(List.append_eq_nil_iff.mp whole.symm).1] at childless
      simp [after, empty, events, Table.values, Table.empty] at childless
  | append_singleton steps step ih =>
      have filed := filed_after (steps ++ [step])
      rcases (stands_concat steps step known).mp stands with childless | ⟨before, remembered⟩
      · have held := filed.sole.mem_events_iff.mp childless
        exact ⟨known, (filed.sole _ known held).2, Nat.le_refl _⟩
      · obtain ⟨newest, held, bound⟩ := ih before
        rw [after_concat]
        simp only [newest_perform_iff (filed_after steps)]
        cases fresh : (after steps).placed known.creator step with
        | none => exact ⟨newest, ⟨remembered, by simp [held]⟩, bound⟩
        | some event =>
            obtain ⟨_, accepted, creator⟩ := placed_eq_some_iff.mp fresh
            have above := (isOutdated_eq_false_iff _ event).mp accepted newest (creator ▸ held)
            rw [Tipset.isBelow_iff] at above
            exact ⟨event, ⟨remembered, by simp⟩, by omega⟩

/-- After any run, an event is ignored if one of its creator that stands is at least as high, and becomes childless
if it is above all that stand and does not name itself; and nothing but its addition makes an event childless. So
retirement by a self event never takes a mark away, and an event of another member that names a childless one
does. -/
theorem branches_stay_below_standing_events (steps : List Step) :
    let tracked := after steps
    (∀ known event, Stands steps known → event.creator = known.creator →
        Tipset.isBelow known.nGen event.nGen = false → tracked.add event = tracked) ∧
      (∀ event, (∀ known, Stands steps known → event.creator = known.creator →
          Tipset.isBelow known.nGen event.nGen = true) →
        event.descriptor ∉ event.parents → event ∈ (tracked.add event).events) ∧
      ∀ step, ∀ event ∈ (tracked.perform step).events, event ∉ tracked.events →
        step = .add event ∧ ∀ known, Stands steps known → event.creator = known.creator →
          Tipset.isBelow known.nGen event.nGen = true := by
  intro tracked
  have filed : Filed tracked := filed_after steps
  have ignored : ∀ known event, Stands steps known → event.creator = known.creator →
      Tipset.isBelow known.nGen event.nGen = false → tracked.add event = tracked := by
    intro known event stands creator notAbove
    obtain ⟨newest, held, bound⟩ := newest_of_stands steps stands
    apply add_of_outdated
    rw [← Bool.not_eq_false]
    intro accepted
    have above := (isOutdated_eq_false_iff tracked event).mp accepted newest (creator ▸ held)
    rw [Tipset.isBelow_iff] at above
    rw [Tipset.isBelow_eq_false_iff] at notAbove
    omega
  refine ⟨ignored, ?_, ?_⟩
  · intro event above apart
    refine mem_events_of_accepted filed ((isOutdated_eq_false_iff tracked event).mpr ?_) apart
    intro known newest
    exact above known (stands_of_newest steps newest) (filed.named _ known newest).symm
  · intro step event childless before
    have sole := (filed.perform step).sole
    rcases find?_perform (sole.mem_events_iff.mp childless) with held | ⟨rfl, _⟩
    · exact absurd (filed.sole.mem_events_iff.mpr held) before
    · refine ⟨rfl, ?_⟩
      intro known stands creator
      rw [← Bool.not_eq_false]
      intro notAbove
      rw [perform, ignored known event stands creator notAbove] at childless
      exact before childless

def forkedEvents : Event × Event × Event :=
  let first := Ancestry.sampleEvent 1 [] 1 5
  (first, Ancestry.sampleEvent 1 [] 2 3, Ancestry.sampleEvent 2 [first.descriptor] 1 6)

theorem retired_event_keeps_branches_out :
    let (first, branch, _) := forkedEvents
    let tracked := after [.add first, .retire [first.descriptor]]
    tracked.events = [] ∧ tracked.add branch = tracked := by
  have facts :
      let (first, branch, _) := forkedEvents
      (after [.add first, .retire [first.descriptor]]).events = [] ∧ first ∈ (after [.add first]).events ∧
        branch.creator = first.creator ∧ Tipset.isBelow first.nGen branch.nGen = false := by
    decide +kernel
  obtain ⟨nothing, childless, creator, notAbove⟩ := facts
  refine ⟨nothing, ?_⟩
  exact (branches_stay_below_standing_events [.add forkedEvents.1, .retire [forkedEvents.1.descriptor]]).1
    forkedEvents.1 forkedEvents.2.1 ⟨[.add forkedEvents.1], [_], rfl, childless, fun forgets => forgets, trivial⟩
    creator notAbove

/-- Additions and retirements alone do not keep branches out for good: another member's event that names the
childless one lets a lower branch in. -/
theorem branches_return_behind_a_child_of_another_member :
    ¬∀ (before since : List Step) (known event : Event),
      (∀ step ∈ before ++ since, (∃ added, step = .add added) ∨ ∃ parents, step = .retire parents) →
        known ∈ (after before).events → event.creator = known.creator →
          Tipset.isBelow known.nGen event.nGen = false → event ∉ (after (before ++ since)).events →
            event ∉ ((after (before ++ since)).add event).events := by
  intro claimed
  have facts :
      let (first, branch, child) := forkedEvents
      first ∈ (after [.add first]).events ∧ branch.creator = first.creator ∧
        Tipset.isBelow first.nGen branch.nGen = false ∧
        branch ∉ (after [.add first, .add child]).events ∧
        branch ∈ ((after [.add first, .add child]).add branch).events := by
    decide +kernel
  obtain ⟨childless, creator, notAbove, before, returned⟩ := facts
  refine claimed [.add forkedEvents.1] [.add forkedEvents.2.2] forkedEvents.1 forkedEvents.2.1 ?_ childless creator
    notAbove before returned
  intro step listed
  rcases List.mem_cons.mp listed with rfl | listed
  · exact Or.inl ⟨_, rfl⟩
  · exact Or.inl ⟨_, List.mem_singleton.mp listed⟩

end ChildlessEvents

namespace Creator

variable {σ : Type}

/-- Whatever happens to a creator, its childless events come from the four operations on them. -/
theorem exists_childless_steps (seat : Seat) (mode : AncientMode) (settings : CreationSettings)
    (actions : List (Action σ)) :
    ∃ steps, ((Creator.start seat mode settings).history actions).creator.childless = ChildlessEvents.after steps := by
  apply history_induction _ actions
    (motive := fun chronicle => ∃ steps, chronicle.creator.childless = ChildlessEvents.after steps)
  · exact ⟨[], rfl⟩
  · rintro chronicle ⟨steps, same⟩ action _
    have onward : ∀ step, chronicle.creator.childless.perform step = ChildlessEvents.after (steps ++ [step]) := by
      intro step
      rw [same, ChildlessEvents.after_concat]
    cases action with
    | register event =>
        rcases chronicle.creator.register_cases event with ignored | ⟨_, _, _, replaced⟩ | ⟨_, _, peer⟩
        · exact ⟨steps, by rw [Chronicle.next, ignored, same]⟩
        · exact ⟨_, by rw [Chronicle.next, replaced, ← onward (.retire event.otherParents)]; rfl⟩
        · exact ⟨_, by rw [Chronicle.next, peer, ← onward (.add event)]; rfl⟩
    | install window => exact ⟨_, onward (.prune window)⟩
    | attempt surroundings now supply =>
        rcases chronicle.next_attempt_cases surroundings now supply with
          ⟨other, event, after, result, _, _, extended⟩ | ⟨after, result, agrees⟩
        · exact ⟨_, by rw [result, extended.childless, ← onward (.retire event.otherParents)]; rfl⟩
        · exact ⟨steps, by rw [result, agrees.childless, same]⟩
    | clear => exact ⟨_, onward .clear⟩

end Creator

end Hashgraph
