import Mathlib.Data.List.Basic
import Hashgraph.Ancestry
import Hashgraph.Proofs.Generations
import Hashgraph.Proofs.MergeLaws

/-! Runs of an ancestry. What arrives is recorded together with the parents that were known at that moment:
the ancestors of an event are the events that can be reached through known parents. The main statement says
that a tipset holds the highest numbers among the ancestors, whatever windows were installed in between. -/

namespace Hashgraph

namespace Ancestry

inductive Arrival where
  | peer (event : Event)
  | own (descriptor : EventDescriptor) (parents : List EventDescriptor)
deriving DecidableEq

namespace Arrival

def descriptor : Arrival → EventDescriptor
  | .peer event => event.descriptor
  | .own descriptor _ => descriptor

def parents : Arrival → List EventDescriptor
  | .peer event => event.parents
  | .own _ parents => parents

def number? : Arrival → Option Generation
  | .peer event => event.nGen
  | .own _ _ => none

def BelongsTo (self : NodeId) : Arrival → Prop
  | .peer event => event.creator ≠ self
  | .own descriptor _ => descriptor.creator = self

instance (self : NodeId) : (arrival : Arrival) → Decidable (arrival.BelongsTo self)
  | .peer event => inferInstanceAs (Decidable (event.creator ≠ self))
  | .own descriptor _ => inferInstanceAs (Decidable (descriptor.creator = self))

end Arrival

inductive Step where
  | add (arrival : Arrival)
  | install (window : EventWindow)
  | clear

def Step.BelongsTo (self : NodeId) : Step → Prop
  | .add arrival => arrival.BelongsTo self
  | _ => True

instance (self : NodeId) : (step : Step) → Decidable (step.BelongsTo self)
  | .add arrival => inferInstanceAs (Decidable (arrival.BelongsTo self))
  | .install _ => isTrue trivial
  | .clear => isTrue trivial

def receive (ancestry : Ancestry) (roster : Roster) : Arrival → Tipset × Ancestry
  | .peer event => ancestry.addPeerEvent roster event
  | .own descriptor parents => ancestry.addSelfEvent roster descriptor parents

structure Addition where
  arrival : Arrival
  known : List EventDescriptor
  tipset : Tipset

def Addition.descriptor (addition : Addition) : EventDescriptor := addition.arrival.descriptor

/-- An ancestry with the additions since it was last cleared, the latest one first. -/
structure Record where
  ancestry : Ancestry
  additions : List Addition

namespace Record

def descriptors (record : Record) : List EventDescriptor := record.additions.map Addition.descriptor

def next (roster : Roster) (mode : AncientMode) (record : Record) : Step → Record
  | .add arrival =>
      let known := arrival.parents.filter fun parent => (record.ancestry.tipset? parent).isSome
      let received := record.ancestry.receive roster arrival
      ⟨received.2, ⟨arrival, known, received.1⟩ :: record.additions⟩
  | .install window => { record with ancestry := record.ancestry.setWindow window }
  | .clear => ⟨.start roster mode, []⟩

def ofSteps (roster : Roster) (mode : AncientMode) (steps : List Step) : Record :=
  steps.foldl (next roster mode) ⟨.start roster mode, []⟩

theorem ofSteps_induction (roster : Roster) (mode : AncientMode) (steps : List Step) {motive : Record → Prop}
    (start : motive ⟨.start roster mode, []⟩)
    (next : ∀ record, motive record → ∀ step ∈ steps, motive (record.next roster mode step)) :
    motive (ofSteps roster mode steps) :=
  List.foldlRecOn steps _ start next

theorem ofSteps_concat (roster : Roster) (mode : AncientMode) (steps : List Step) (step : Step) :
    ofSteps roster mode (steps ++ [step]) = (ofSteps roster mode steps).next roster mode step := by
  simp [ofSteps]

end Record

def sampleEvent (creator : UInt64) (parents : List EventDescriptor) (birthRound : Round) (nGen : Generation) :
    Event :=
  (Event.unsigned ⟨⟨creator⟩, none, parents, birthRound, .epoch, []⟩).withNGen nGen

/-- An event is reached from itself, and from every event that one of its descendants was a known parent of. -/
inductive Ancestor (additions : List Addition) : EventDescriptor → EventDescriptor → Prop
  | refl (descriptor) : Ancestor additions descriptor descriptor
  | step {addition parent ancestor} : addition ∈ additions → parent ∈ addition.known →
      Ancestor additions parent ancestor → Ancestor additions addition.descriptor ancestor

/-- The numbers of a creator's peer events among the ancestors of an event. -/
def AncestorNumber (additions : List Addition) (descriptor : EventDescriptor) (creator : NodeId)
    (nGen : Generation) : Prop :=
  ∃ addition ∈ additions, Ancestor additions descriptor addition.descriptor ∧
    addition.descriptor.creator = creator ∧ addition.arrival.number? = some nGen

theorem tipset?_store (ancestry : Ancestry) (descriptor other : EventDescriptor) (tipset : Tipset) :
    (ancestry.store descriptor tipset).tipset? other =
      if descriptor = other ∧ ancestry.window.isAncient descriptor = false then some tipset
      else ancestry.tipset? other := by
  unfold store tipset?
  by_cases ancient : ancestry.window.isAncient descriptor = true
  · simp [ancient]
  · simp only [Bool.not_eq_true] at ancient
    simp [ancient]

@[simp] theorem tipset?_raiseLatest (ancestry : Ancestry) (roster : Roster) (event : Event)
    (other : EventDescriptor) : (ancestry.raiseLatest roster event).tipset? other = ancestry.tipset? other := by
  unfold raiseLatest
  split <;> rfl

@[simp] theorem window_raiseLatest (ancestry : Ancestry) (roster : Roster) (event : Event) :
    (ancestry.raiseLatest roster event).window = ancestry.window := by
  unfold raiseLatest
  split <;> rfl

theorem tipset?_receive (ancestry : Ancestry) (roster : Roster) (arrival : Arrival) (other : EventDescriptor) :
    (ancestry.receive roster arrival).2.tipset? other =
      if arrival.descriptor = other ∧ ancestry.window.isAncient arrival.descriptor = false then
        some (ancestry.receive roster arrival).1
      else ancestry.tipset? other := by
  cases arrival with
  | peer event =>
      have stored := tipset?_store (ancestry.raiseLatest roster event) event.descriptor other
        (ancestry.peerTipset roster event)
      rw [window_raiseLatest, tipset?_raiseLatest] at stored
      exact stored
  | own descriptor parents => exact tipset?_store ancestry descriptor other _

theorem isSome_tipset?_receive {ancestry : Ancestry} {descriptor : EventDescriptor}
    (tracked : (ancestry.tipset? descriptor).isSome = true) (roster : Roster) (arrival : Arrival) :
    ((ancestry.receive roster arrival).2.tipset? descriptor).isSome = true := by
  rw [tipset?_receive]
  split
  · rfl
  · exact tracked

@[simp] theorem window_receive (ancestry : Ancestry) (roster : Roster) (arrival : Arrival) :
    (ancestry.receive roster arrival).2.window = ancestry.window := by
  have stored : ∀ (ancestry : Ancestry) (descriptor : EventDescriptor) (tipset : Tipset),
      (ancestry.store descriptor tipset).window = ancestry.window := by
    intro ancestry descriptor tipset
    unfold store
    split <;> rfl
  cases arrival with
  | peer event => simp [receive, addPeerEvent, stored]
  | own descriptor parents => simp [receive, addSelfEvent, stored]

theorem tipset?_setWindow (ancestry : Ancestry) (window : EventWindow) (other : EventDescriptor) :
    (ancestry.setWindow window).tipset? other =
      (ancestry.tipset? other).filter fun _ => !window.isAncient other := by
  simp [setWindow, tipset?]

@[simp] theorem tipset?_start (roster : Roster) (mode : AncientMode) (other : EventDescriptor) :
    (start roster mode).tipset? other = none := rfl

theorem latest_store (ancestry : Ancestry) (descriptor : EventDescriptor) (tipset : Tipset) :
    (ancestry.store descriptor tipset).latest = ancestry.latest := by
  unfold store
  split <;> rfl

theorem length_latest_receive (ancestry : Ancestry) (roster : Roster) (arrival : Arrival) :
    (ancestry.receive roster arrival).2.latest.tips.length = ancestry.latest.tips.length := by
  cases arrival with
  | peer event =>
      simp only [receive, addPeerEvent, latest_store, raiseLatest]
      split
      · exact Tipset.length_advance _ _ _ _
      · rfl
  | own descriptor parents => simp only [receive, addSelfEvent, latest_store]

theorem latestFor_receive {ancestry : Ancestry} {roster : Roster}
    (fits : ancestry.latest.tips.length = roster.size) (arrival : Arrival) (node : NodeId) :
    (ancestry.receive roster arrival).2.latestFor roster node =
      match arrival with
      | .peer event =>
          if event.creator = node ∧ roster.contains node = true then
            Tipset.higher (ancestry.latestFor roster node) event.nGen
          else ancestry.latestFor roster node
      | .own _ _ => ancestry.latestFor roster node := by
  cases arrival with
  | peer event =>
      simp only [receive, addPeerEvent, latestFor, latest_store, raiseLatest]
      cases event.nGen with
      | none => simp
      | some nGen => exact Tipset.tip_advance _ _ _ _ fits
  | own descriptor parents => simp only [receive, addSelfEvent, latestFor, latest_store]

@[simp] theorem length_receive (ancestry : Ancestry) (roster : Roster) (arrival : Arrival) :
    (ancestry.receive roster arrival).1.tips.length = roster.size := by
  cases arrival with
  | peer event =>
      simp only [receive, addPeerEvent, peerTipset, mergedParents]
      split <;> simp
  | own descriptor parents => simp [receive, addSelfEvent, mergedParents]

theorem mergedParents_eq (ancestry : Ancestry) (roster : Roster) (parents : List EventDescriptor) :
    ancestry.mergedParents roster parents =
      .mergeAll roster ((parents.filter fun parent => (ancestry.tipset? parent).isSome).map
        fun parent => (ancestry.tipset? parent).getD (.empty roster)) := by
  unfold mergedParents
  congr 1
  induction parents with
  | nil => rfl
  | cons parent rest ih => cases found : ancestry.tipset? parent <;> simp [found, ih]

theorem tip_addSelfEvent {roster : Roster} (ancestry : Ancestry) (descriptor : EventDescriptor)
    (parents : List EventDescriptor) (node : NodeId) :
    (ancestry.addSelfEvent roster descriptor parents).1.tip roster node =
      if descriptor.creator = node then none else (ancestry.mergedParents roster parents).tip roster node :=
  Tipset.tip_excluding _ _ _

theorem tip_receive {roster : Roster} {self : NodeId} (ancestry : Ancestry) (arrival : Arrival)
    (owned : arrival.BelongsTo self) {node : NodeId} (member : roster.contains node = true) :
    (ancestry.receive roster arrival).1.tip roster node =
      match arrival with
      | .peer event =>
          if event.creator = node then
            Tipset.higher ((ancestry.mergedParents roster event.parents).tip roster node) event.nGen
          else (ancestry.mergedParents roster event.parents).tip roster node
      | .own _ parents =>
          if node = self then none else (ancestry.mergedParents roster parents).tip roster node := by
  cases arrival with
  | peer event =>
      simp only [receive, addPeerEvent, peerTipset]
      cases event.nGen with
      | none => simp
      | some nGen => simp [Tipset.tip_advance, mergedParents, member]
  | own descriptor parents =>
      simp only [Arrival.BelongsTo] at owned
      simp only [receive, tip_addSelfEvent, owned, eq_comm]

theorem height_tip_le_mergedParents {ancestry : Ancestry} (roster : Roster) {parents : List EventDescriptor}
    {parent : EventDescriptor} {tipset : Tipset} (named : parent ∈ parents)
    (known : ancestry.tipset? parent = some tipset) (node : NodeId) :
    Tipset.height (tipset.tip roster node) ≤
      Tipset.height ((ancestry.mergedParents roster parents).tip roster node) :=
  Tipset.dominates_iff.mp (Tipset.dominates_mergeAll (List.mem_filterMap.mpr ⟨parent, named, known⟩)) node

theorem tip_mergedParents_source {ancestry : Ancestry} {roster : Roster} {parents : List EventDescriptor}
    {node : NodeId} {nGen : Generation}
    (found : (ancestry.mergedParents roster parents).tip roster node = some nGen) :
    ∃ parent ∈ parents, ∃ tipset, ancestry.tipset? parent = some tipset ∧ tipset.tip roster node = some nGen := by
  have highest := Tipset.isHighest_mergeAll roster node (parents.filterMap ancestry.tipset?) id
    (fun tipset number => tipset.tip roster node = some number) fun tipset _ => Tipset.isHighest_self _
  rw [List.map_id, ← mergedParents, found] at highest
  obtain ⟨tipset, known, tip⟩ := highest.1
  obtain ⟨parent, named, tracked⟩ := List.mem_filterMap.mp known
  exact ⟨parent, named, tipset, tracked, tip⟩

theorem height_tip_mergedParents_pair {ancestry : Ancestry} (roster : Roster) {a b : EventDescriptor}
    {tipsetA tipsetB : Tipset} (knownA : ancestry.tipset? a = some tipsetA)
    (knownB : ancestry.tipset? b = some tipsetB) (node : NodeId) :
    Tipset.height ((ancestry.mergedParents roster [a, b]).tip roster node) =
      max (Tipset.height (tipsetA.tip roster node)) (Tipset.height (tipsetB.tip roster node)) := by
  simp [mergedParents, knownA, knownB, Tipset.tip_mergeAll]

theorem tip_mergedParents_perm (ancestry : Ancestry) (roster : Roster) {parents others : List EventDescriptor}
    (same : parents.Perm others) (node : NodeId) :
    (ancestry.mergedParents roster parents).tip roster node =
      (ancestry.mergedParents roster others).tip roster node := by
  have known := same.filterMap ancestry.tipset?
  rw [mergedParents, mergedParents, Tipset.mergeAll_congr roster fun _ => known.mem_iff]

def Fresh (ancestry : Ancestry) : Prop :=
  ∀ descriptor tipset, ancestry.tipset? descriptor = some tipset → ancestry.window.isAncient descriptor = false

theorem Fresh.start (roster : Roster) (mode : AncientMode) : Fresh (start roster mode) := by
  intro descriptor tipset found
  simp at found

theorem Fresh.receive {ancestry : Ancestry} (fresh : Fresh ancestry) (roster : Roster) (arrival : Arrival) :
    Fresh (ancestry.receive roster arrival).2 := by
  intro descriptor tipset found
  rw [tipset?_receive] at found
  rw [window_receive]
  split at found
  · rename_i stored
    exact stored.1 ▸ stored.2
  · exact fresh descriptor tipset found

theorem Fresh.setWindow {ancestry : Ancestry} (window : EventWindow) : Fresh (ancestry.setWindow window) := by
  intro descriptor tipset found
  rw [tipset?_setWindow, Option.filter_eq_some_iff] at found
  have young : window.isAncient descriptor = false := by simpa using found.2
  exact young

theorem Fresh.tipset?_arrived {ancestry : Ancestry} (fresh : Fresh ancestry) {roster : Roster} {arrival : Arrival}
    {tipset : Tipset} (found : (ancestry.receive roster arrival).2.tipset? arrival.descriptor = some tipset) :
    tipset = (ancestry.receive roster arrival).1 := by
  have young := fresh.receive roster arrival _ _ found
  rw [window_receive] at young
  rw [tipset?_receive, if_pos ⟨rfl, young⟩] at found
  exact (Option.some.inj found).symm

/-! ### Ancestors in a growing record -/

def Grounded (additions : List Addition) : Prop :=
  ∀ addition older, addition :: older <:+ additions →
    ∀ parent ∈ addition.known, parent ∈ addition.arrival.parents ∧ parent ∈ older.map Addition.descriptor

theorem Grounded.older {latest : Addition} {additions : List Addition} (grounded : Grounded (latest :: additions)) :
    Grounded additions := by
  intro addition older suffix_
  exact grounded addition older (suffix_.trans (List.suffix_cons latest additions))

theorem exists_suffix {addition : Addition} {additions : List Addition} (member : addition ∈ additions) :
    ∃ newer older, additions = newer ++ addition :: older ∧ addition :: older <:+ additions := by
  obtain ⟨newer, older, rfl⟩ := List.append_of_mem member
  exact ⟨newer, older, rfl, List.suffix_append _ _⟩

theorem Grounded.closed {additions : List Addition} (grounded : Grounded additions) {addition : Addition}
    (member : addition ∈ additions) {parent : EventDescriptor} (known : parent ∈ addition.known) :
    parent ∈ additions.map Addition.descriptor := by
  obtain ⟨newer, older, rfl, suffix_⟩ := exists_suffix member
  have before := (grounded addition older suffix_ parent known).2
  simp only [List.map_append, List.map_cons, List.mem_append, List.mem_cons]
  exact Or.inr (Or.inr before)

theorem Ancestor.listed {additions : List Addition} (grounded : Grounded additions)
    {descriptor ancestor : EventDescriptor} (path : Ancestor additions descriptor ancestor)
    (listed : descriptor ∈ additions.map Addition.descriptor) :
    ancestor ∈ additions.map Addition.descriptor := by
  induction path with
  | refl _ => exact listed
  | step member known _ ih => exact ih (grounded.closed member known)

theorem Ancestor.mono {additions more : List Addition} (subset : additions ⊆ more)
    {descriptor ancestor : EventDescriptor} (path : Ancestor additions descriptor ancestor) :
    Ancestor more descriptor ancestor := by
  induction path with
  | refl descriptor => exact .refl descriptor
  | step member known _ ih => exact .step (subset member) known ih

theorem ancestor_older_iff {latest : Addition} {additions : List Addition} (grounded : Grounded additions)
    (fresh : latest.descriptor ∉ additions.map Addition.descriptor) {descriptor ancestor : EventDescriptor}
    (listed : descriptor ∈ additions.map Addition.descriptor) :
    Ancestor (latest :: additions) descriptor ancestor ↔ Ancestor additions descriptor ancestor := by
  constructor
  · intro path
    induction path with
    | refl descriptor => exact .refl descriptor
    | @step addition parent ancestor member known _ ih =>
        rcases List.mem_cons.mp member with same | older
        · subst same
          exact absurd listed fresh
        · exact .step older known (ih (grounded.closed older known))
  · exact Ancestor.mono (List.subset_cons_self latest additions)

theorem ancestorNumber_older_iff {latest : Addition} {additions : List Addition} (grounded : Grounded additions)
    (fresh : latest.descriptor ∉ additions.map Addition.descriptor) {descriptor : EventDescriptor}
    (listed : descriptor ∈ additions.map Addition.descriptor) (creator : NodeId) (nGen : Generation) :
    AncestorNumber (latest :: additions) descriptor creator nGen ↔
      AncestorNumber additions descriptor creator nGen := by
  constructor
  · rintro ⟨addition, member, path, rest⟩
    rw [ancestor_older_iff grounded fresh listed] at path
    rcases List.mem_cons.mp member with same | older
    · subst same
      exact absurd (path.listed grounded listed) fresh
    · exact ⟨addition, older, path, rest⟩
  · rintro ⟨addition, member, path, rest⟩
    exact ⟨addition, List.mem_cons_of_mem _ member, (ancestor_older_iff grounded fresh listed).mpr path, rest⟩

theorem ancestorNumber_latest_iff {latest : Addition} {additions : List Addition}
    (grounded : Grounded (latest :: additions))
    (fresh : latest.descriptor ∉ additions.map Addition.descriptor) (creator : NodeId) (nGen : Generation) :
    AncestorNumber (latest :: additions) latest.descriptor creator nGen ↔
      (∃ parent ∈ latest.known, AncestorNumber additions parent creator nGen) ∨
        (latest.descriptor.creator = creator ∧ latest.arrival.number? = some nGen) := by
  have before : ∀ parent ∈ latest.known, parent ∈ additions.map Addition.descriptor :=
    fun parent known => (grounded latest additions (List.suffix_refl _) parent known).2
  constructor
  · rintro ⟨addition, member, path, created, number⟩
    generalize start : latest.descriptor = descriptor at path
    generalize finish : addition.descriptor = ancestor at path
    cases path with
    | refl _ =>
        rcases List.mem_cons.mp member with same | older
        · subst same
          exact Or.inr ⟨start ▸ created, number⟩
        · have listed : addition.descriptor ∈ additions.map Addition.descriptor :=
            List.mem_map.mpr ⟨addition, older, rfl⟩
          rw [finish, ← start] at listed
          exact absurd listed fresh
    | @step first parent _ firstMember known tail =>
        rcases List.mem_cons.mp firstMember with same | older
        · subst same
          refine Or.inl ⟨parent, known, ?_⟩
          rw [← ancestorNumber_older_iff grounded.older fresh (before parent known)]
          exact ⟨addition, member, finish ▸ tail, created, number⟩
        · have listed : first.descriptor ∈ additions.map Addition.descriptor :=
            List.mem_map.mpr ⟨first, older, rfl⟩
          rw [← start] at listed
          exact absurd listed fresh
  · rintro (⟨parent, known, inherited⟩ | ⟨created, number⟩)
    · rw [← ancestorNumber_older_iff grounded.older fresh (before parent known)] at inherited
      obtain ⟨addition, member, path, rest⟩ := inherited
      exact ⟨addition, member, .step List.mem_cons_self known path, rest⟩
    · exact ⟨latest, List.mem_cons_self, .refl _, created, number⟩

end Ancestry

end Hashgraph
