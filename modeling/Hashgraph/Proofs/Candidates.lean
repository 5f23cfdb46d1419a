import Hashgraph.Proofs.CreatorRun

/-! The childless events among which a creator chooses. In every state that a run reaches they are stored under
their own descriptors, come from other members of the roster, and are tracked. -/

namespace Hashgraph

namespace Table

variable {κ ν : Type} [DecidableEq κ]

theorem lookup_eq_some_iff {key : κ} {value : ν} {entries : List (κ × ν)}
    (unique : (entries.map Prod.fst).Nodup) : lookup key entries = some value ↔ (key, value) ∈ entries := by
  induction entries with
  | nil => simp [lookup]
  | cons entry rest ih =>
      obtain ⟨first, held⟩ := entry
      obtain ⟨absent, distinct⟩ := List.nodup_cons.mp unique
      by_cases same : first = key
      · subst same
        have later : (first, value) ∉ rest := fun member => absent (List.mem_map.mpr ⟨_, member, rfl⟩)
        simp [lookup, later, eq_comm]
      · have different : key ≠ first := fun equal => same equal.symm
        simp [lookup, same, different, ih distinct]

theorem mem_keys_iff {table : Table κ ν} {key : κ} : key ∈ table.keys ↔ table.contains key = true := by
  rw [contains, find?, Option.isSome_iff_ne_none, Ne, lookup_eq_none_iff, not_not]
  rfl

theorem mem_values_iff {table : Table κ ν} {value : ν} :
    value ∈ table.values ↔ ∃ key, table.find? key = some value := by
  simp [values, find?, lookup_eq_some_iff table.unique]

theorem foldl_forget {α β : Type} (view : α → κ → Option β) (forget : α → κ → α)
    (step : ∀ state key other, view (forget state key) other = if other = key then none else view state other)
    (keys : List κ) (state : α) (other : κ) :
    view (keys.foldl forget state) other = if other ∈ keys then none else view state other := by
  induction keys generalizing state with
  | nil => simp
  | cons first rest ih =>
      rw [List.foldl_cons, ih, step]
      by_cases same : other = first
      · simp [same]
      · simp [same]

end Table

namespace ChildlessEvents

theorem find?_remove (tracked : ChildlessEvents) (descriptor other : EventDescriptor) :
    (tracked.remove descriptor).childless.find? other =
      if other = descriptor then none else tracked.childless.find? other := by
  unfold remove
  split
  · exact Table.find?_erase _ _ _
  · rename_i missing
    split
    · rename_i same
      subst same
      simpa [Table.contains] using missing
    · rfl

theorem find?_foldl_remove (tracked : ChildlessEvents) (descriptors : List EventDescriptor)
    (other : EventDescriptor) :
    (descriptors.foldl remove tracked).childless.find? other =
      if other ∈ descriptors then none else tracked.childless.find? other :=
  Table.foldl_forget (fun tracked : ChildlessEvents => tracked.childless.find?) remove find?_remove _ _ _

theorem find?_retire (tracked : ChildlessEvents) (parents : List EventDescriptor) (other : EventDescriptor) :
    (tracked.retire parents).childless.find? other =
      if other ∈ parents then none else tracked.childless.find? other :=
  Table.foldl_forget Table.find? Table.erase Table.find?_erase _ _ _

theorem find?_prune {tracked : ChildlessEvents} {window : EventWindow} {descriptor : EventDescriptor}
    {event : Event} (found : (tracked.prune window).childless.find? descriptor = some event) :
    window.isAncient descriptor = false ∧ tracked.childless.find? descriptor = some event := by
  rw [prune, find?_foldl_remove] at found
  split at found
  · simp at found
  · rename_i kept
    refine ⟨?_, found⟩
    have key : descriptor ∈ tracked.childless.keys := by
      have listed := (Table.lookup_eq_some_iff tracked.childless.unique).mp found
      exact List.mem_map.mpr ⟨_, listed, rfl⟩
    simpa [key] using kept

theorem find?_add {tracked : ChildlessEvents} {event found : Event} {descriptor : EventDescriptor}
    (held : (tracked.add event).childless.find? descriptor = some found) :
    tracked.childless.find? descriptor = some found ∨ (descriptor = event.descriptor ∧ found = event) := by
  unfold add at held
  split at held
  · exact Or.inl held
  rw [find?_foldl_remove] at held
  split at held
  · simp at held
  rw [put, Table.find?_insert] at held
  split at held
  · rename_i own
    cases held
    exact Or.inr ⟨own.symm, rfl⟩
  · left
    split at held
    · rw [find?_remove] at held
      split at held
      · simp at held
      · exact held
    · exact held

end ChildlessEvents

namespace Creator

variable {σ : Type}

structure Suitable (creator : Creator) (event : Event) : Prop where
  member : creator.seat.roster.contains event.creator = true
  other : event.creator ≠ creator.seat.node
  tracked : (creator.ancestry.tipset? event.descriptor).isSome = true

theorem Suitable.young {creator : Creator} {event : Event} (suitable : Suitable creator event)
    (fresh : creator.ancestry.Fresh) : creator.window.isAncient event.descriptor = false := by
  obtain ⟨tipset, found⟩ := Option.isSome_iff_exists.mp suitable.tracked
  exact fresh _ tipset found

theorem Suitable.receive {before after : Creator} {event : Event} (suitable : Suitable before event)
    (seat : after.seat = before.seat) (arrival : Ancestry.Arrival)
    (arrived : after.ancestry = (before.ancestry.receive before.seat.roster arrival).2) : Suitable after event where
  member := seat ▸ suitable.member
  other := seat ▸ suitable.other
  tracked := arrived ▸ Ancestry.isSome_tipset?_receive suitable.tracked _ arrival

def Stocked (creator : Creator) : Prop :=
  ∀ descriptor event, creator.childless.childless.find? descriptor = some event →
    event.descriptor = descriptor ∧ Suitable creator event

theorem Stocked.mem_events_iff {creator : Creator} (stocked : Stocked creator) {event : Event} :
    event ∈ creator.childless.events ↔ creator.childless.childless.find? event.descriptor = some event := by
  rw [ChildlessEvents.events, Table.mem_values_iff]
  constructor
  · rintro ⟨descriptor, found⟩
    rwa [(stocked descriptor event found).1]
  · exact fun found => ⟨_, found⟩

theorem Stocked.suitable {creator : Creator} (stocked : Stocked creator) {event : Event}
    (listed : event ∈ creator.childless.events) : Suitable creator event :=
  (stocked _ event (stocked.mem_events_iff.mp listed)).2

theorem Stocked.nothing {creator : Creator} (cleared : creator.childless = .empty) : Stocked creator := by
  intro descriptor event found
  rw [cleared] at found
  simp [ChildlessEvents.empty] at found

theorem Stocked.agrees {before after : Creator} (stocked : Stocked before) (same : Agrees before after) :
    Stocked after := by
  intro descriptor event found
  rw [same.childless] at found
  obtain ⟨named, suitable⟩ := stocked descriptor event found
  refine ⟨named, ?_, ?_, ?_⟩
  · rw [same.seat]
    exact suitable.member
  · rw [same.seat]
    exact suitable.other
  · rw [same.ancestry]
    exact suitable.tracked

theorem Stocked.own {before after : Creator} (stocked : Stocked before) (seat : after.seat = before.seat)
    {parents others : List EventDescriptor} {descriptor : EventDescriptor}
    (ancestry : after.ancestry = (before.ancestry.addSelfEvent before.seat.roster descriptor parents).2)
    (childless : after.childless = before.childless.retire others) : Stocked after := by
  intro other event found
  rw [childless, ChildlessEvents.find?_retire] at found
  split at found
  · simp at found
  · obtain ⟨named, suitable⟩ := stocked other event found
    exact ⟨named, suitable.receive seat (.own descriptor parents) ancestry⟩

theorem Stocked.register {creator : Creator} (stocked : Stocked creator) (event : Event) :
    Stocked (creator.register event) := by
  rcases creator.register_cases event with same | ⟨_, _, _, replaced⟩ | ⟨admitted, other, peer⟩
  · rw [same]
    exact stocked
  · rw [replaced]
    exact stocked.own rfl rfl rfl
  · rw [peer]
    intro descriptor candidate found
    rcases ChildlessEvents.find?_add found with before | ⟨rfl, rfl⟩
    · obtain ⟨named, suitable⟩ := stocked descriptor candidate before
      exact ⟨named, suitable.receive rfl (.peer event) rfl⟩
    · refine ⟨rfl, admitted.member, other, ?_⟩
      have arrived := Ancestry.tipset?_receive creator.ancestry creator.seat.roster (.peer candidate)
        candidate.descriptor
      rw [if_pos ⟨rfl, admitted.young⟩] at arrived
      exact Option.isSome_iff_exists.mpr ⟨_, arrived⟩

theorem Stocked.setWindow {creator : Creator} (stocked : Stocked creator) (window : EventWindow) :
    Stocked (creator.setWindow window) := by
  intro descriptor event found
  obtain ⟨young, before⟩ := ChildlessEvents.find?_prune found
  obtain ⟨rfl, suitable⟩ := stocked descriptor event before
  refine ⟨rfl, suitable.member, suitable.other, ?_⟩
  obtain ⟨tipset, tracked⟩ := Option.isSome_iff_exists.mp suitable.tracked
  simp [Creator.setWindow, Ancestry.tipset?_setWindow, tracked, young]

theorem stocked_history (seat : Seat) (mode : AncientMode) (settings : CreationSettings)
    (actions : List (Action σ)) : Stocked ((Creator.start seat mode settings).history actions).creator := by
  apply history_induction _ actions (motive := fun chronicle => Stocked chronicle.creator)
  · exact .nothing rfl
  · intro chronicle stocked action _
    cases action with
    | register event => exact stocked.register event
    | install window => exact stocked.setWindow window
    | attempt surroundings now supply =>
        rcases chronicle.next_attempt_cases surroundings now supply with
          ⟨other, event, after, result, _, _, extended⟩ | ⟨after, result, agrees⟩
        · rw [result]
          exact stocked.own extended.seat extended.ancestry extended.childless
        · rw [result]
          exact stocked.agrees agrees
    | clear => exact .nothing rfl

end Creator

end Hashgraph
