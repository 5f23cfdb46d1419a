import Hashgraph.Proofs.Candidates
import Hashgraph.Proofs.NetworkRun

/-! All creators of a network agree: they have the window of consensus, track just those events that are not
ancient under it, and see the same tips of all members but themselves. An event's maker stores it before it has
a number and leaves itself out, and all others store it behind consensus; rounds prune everywhere alike. -/

namespace Hashgraph

namespace Consensus

theorem nextThreshold_mono {before after : Consensus} {round later : Round}
    (mode : after.window.mode = before.window.mode) (size : after.rosterSize = before.rosterSize)
    (rounds : round.toNat ≤ later.toNat) (generations : before.maxGeneration ≤ after.maxGeneration) :
    before.nextThreshold round ≤ after.nextThreshold later := by
  rw [UInt64.le_iff_toNat_le] at generations
  rw [nextThreshold, nextThreshold, mode, size]
  cases before.window.mode with
  | birthRoundThreshold => exact sup_le_sup_right (Nat.sub_le_sub_right rounds _) _
  | generationThreshold => exact sup_le_sup_right (Nat.sub_le_sub_right generations _) _

/-- A round that would end now would not lower the threshold. -/
def Orderly (consensus : Consensus) : Prop :=
  consensus.window.ancientThreshold.toNat ≤ consensus.nextThreshold consensus.window.latestConsensusRound

theorem Orderly.start (mode : AncientMode) (rosterSize : UInt64) : Orderly (start mode rosterSize) :=
  Nat.le_max_right _ _

theorem Orderly.enter {consensus : Consensus} (orderly : Orderly consensus) (event : Event) (nGen : Generation) :
    Orderly (consensus.enter event nGen) := by
  have generations : consensus.maxGeneration ≤ (consensus.enter event nGen).maxGeneration := by
    simp only [Consensus.enter, UInt64.le_iff_toNat_le, toNat_max]
    exact Nat.le_max_left _ _
  exact Nat.le_trans orderly (nextThreshold_mono rfl rfl (Nat.le_refl _) generations)

theorem Orderly.le_next {before after : Consensus} (orderly : Orderly before) (moved : Moved before after) :
    before.window.ancientThreshold ≤ after.window.ancientThreshold := by
  rw [UInt64.le_iff_toNat_le, moved.threshold]
  refine Nat.le_trans orderly (nextThreshold_mono rfl rfl ?_ (UInt64.le_refl _))
  rw [moved.latest]
  exact Nat.le_succ _

theorem Moved.orderly {before after : Consensus} (moved : Moved before after) : Orderly after := by
  rw [Orderly, moved.threshold]
  refine nextThreshold_mono moved.mode moved.rosterSize (Nat.le_refl _) ?_
  rw [moved.maxGeneration]
  exact UInt64.le_refl _

theorem Orderly.isAncient {before after : Consensus} (orderly : Orderly before) (moved : Moved before after)
    {descriptor : EventDescriptor} (young : after.window.isAncient descriptor = false) :
    before.window.isAncient descriptor = false := by
  have higher := orderly.le_next moved
  rw [EventWindow.isAncient, moved.mode] at young
  simp only [EventWindow.isAncient, EventWindow.isAncientIndicator, decide_eq_false_iff_not,
    UInt64.not_lt] at young ⊢
  exact UInt64.le_trans higher young

end Consensus

/-! ### Arrivals at any creator -/

namespace Ancestry

def Arrival.ofEvent (event : Event) (self : NodeId) : Arrival :=
  if event.creator = self then .own event.descriptor event.parents else .peer event

@[simp] theorem Arrival.descriptor_ofEvent (event : Event) (self : NodeId) :
    (ofEvent event self).descriptor = event.descriptor := by
  unfold ofEvent
  split <;> rfl

theorem receive_ofEvent_of_own {roster : Roster} {ancestry : Ancestry} {event : Event} {self : NodeId}
    (own : event.creator = self) : ancestry.receive roster (.ofEvent event self) =
      ancestry.receive roster (.own event.descriptor event.parents) := by
  rw [Arrival.ofEvent, if_pos own]

theorem receive_ofEvent_of_peer {roster : Roster} {ancestry : Ancestry} {event : Event} {self : NodeId}
    (other : event.creator ≠ self) :
    ancestry.receive roster (.ofEvent event self) = ancestry.receive roster (.peer event) := by
  rw [Arrival.ofEvent, if_neg other]

theorem tip_receive_ofEvent {roster : Roster} (ancestry : Ancestry) (event : Event) (self : NodeId) {node : NodeId}
    (member : roster.contains node = true) :
    (ancestry.receive roster (.ofEvent event self)).1.tip roster node =
      if event.creator = node then
        if node = self then none
        else Tipset.higher ((ancestry.mergedParents roster event.parents).tip roster node) event.nGen
      else (ancestry.mergedParents roster event.parents).tip roster node := by
  unfold Arrival.ofEvent
  split
  · rename_i own
    have owned : (Arrival.own event.descriptor event.parents).BelongsTo self := own
    have tip : _ = if node = self then none else (ancestry.mergedParents roster event.parents).tip roster node :=
      tip_receive ancestry _ owned member
    rw [tip, own]
    by_cases same : node = self
    · simp [same]
    · simp [same, Ne.symm same]
  · rename_i apart
    have tip : _ = if event.creator = node then
        Tipset.higher ((ancestry.mergedParents roster event.parents).tip roster node) event.nGen
        else (ancestry.mergedParents roster event.parents).tip roster node :=
      tip_receive ancestry (.peer event) apart member
    rw [tip]
    by_cases same : node = self
    · simp [same, show event.creator ≠ self from apart]
    · simp [same]

theorem tipset?_pruned (ancestry : Ancestry) (window : EventWindow) (descriptor : EventDescriptor) :
    (ancestry.setWindow window).tipset? descriptor =
      if window.isAncient descriptor then none else ancestry.tipset? descriptor := by
  rw [tipset?_setWindow]
  cases ancestry.tipset? descriptor <;> cases window.isAncient descriptor <;> rfl

theorem tip_mergedParents_congr {a b : Ancestry} {roster : Roster} {node : NodeId} {parents : List EventDescriptor}
    (same : ∀ parent ∈ parents, (a.tipset? parent).map (fun tipset => tipset.tip roster node) =
      (b.tipset? parent).map fun tipset => tipset.tip roster node) :
    (a.mergedParents roster parents).tip roster node = (b.mergedParents roster parents).tip roster node := by
  rw [mergedParents, mergedParents, Tipset.tip_mergeAll, Tipset.tip_mergeAll, List.map_filterMap, List.map_filterMap,
    List.filterMap_congr same]

end Ancestry

namespace Creator

theorem Lived.sameMode {mode : AncientMode} {creator : Creator} (lived : Lived mode creator) :
    creator.window.mode = creator.mode := by
  obtain ⟨settings, actions, fits, equal⟩ := lived
  have inMode := inMode_history creator.seat mode settings actions fits
  rw [← equal] at inMode
  exact inMode.window.trans inMode.own.symm

end Creator

namespace Network

theorem Spread.young {before after : Network} {roster : Roster} {mode : AncientMode} {maker next : Creator}
    {event : Event} (spread : Spread before maker next event after) (sound : Sound roster mode before) :
    before.consensus.window.isAncient event.descriptor = false := by
  obtain ⟨_, _, _, made, _, _⟩ := spread.built
  rw [← sound.windows maker spread.listed]
  exact made.young (sound.lived maker spread.listed).sameMode

theorem Spread.creator {before after : Network} {maker next : Creator} {event : Event}
    (spread : Spread before maker next event after) : event.creator = maker.seat.node := by
  obtain ⟨_, _, _, made, _, _⟩ := spread.built
  exact made.creator

def learning (roster : Roster) (event : Event) (old : Creator) : Creator :=
  { old with
    ancestry := (old.ancestry.addPeerEvent roster event).2
    childless := old.childless.add event }

theorem Spread.learnt {before after : Network} {roster : Roster} {mode : AncientMode} {maker next : Creator}
    {event : Event} (spread : Spread before maker next event after) (sound : Sound roster mode before) :
    ∀ creator ∈ after.creators, creator = next ∨
      ∃ old ∈ before.creators, event.creator ≠ old.seat.node ∧
        creator = learning roster (before.numbered event) old := by
  intro creator listed
  rcases spread.creators creator listed with rfl | ⟨old, among, apart, rfl⟩
  · exact Or.inl rfl
  · have other : (before.numbered event).creator ≠ old.seat.node :=
      fun same => apart (same.symm.trans spread.creator)
    have member : old.seat.roster.contains (before.numbered event).creator = true := by
      rw [creator_numbered, spread.creator, sound.roster_of_mem among, ← sound.roster_of_mem spread.listed]
      exact maker.seat.member
    have young : old.window.isAncient (before.numbered event).descriptor = false := by
      rw [descriptor_numbered, sound.windows old among]
      exact spread.young sound
    refine Or.inr ⟨old, among, other, ?_⟩
    rw [Creator.register_of_peer young member other, sound.roster_of_mem among]
    rfl

theorem Spread.arrived {before after : Network} {roster : Roster} {mode : AncientMode} {maker next : Creator}
    {event : Event} (spread : Spread before maker next event after) (sound : Sound roster mode before) :
    ∀ creator ∈ after.creators, ∃ old ∈ before.creators, creator.seat = old.seat ∧
      creator.ancestry = (old.ancestry.receive roster
        (.ofEvent (before.numbered event) old.seat.node)).2 := by
  intro creator listed
  rcases spread.learnt sound creator listed with rfl | ⟨old, among, other, rfl⟩
  · refine ⟨maker, spread.listed, spread.extended.seat, ?_⟩
    have own : (before.numbered event).creator = maker.seat.node := spread.creator
    rw [spread.extended.ancestry, sound.roster_of_mem spread.listed, Ancestry.receive_ofEvent_of_own own]
    rfl
  · refine ⟨old, among, rfl, ?_⟩
    have peer : (before.numbered event).creator ≠ old.seat.node := other
    rw [Ancestry.receive_ofEvent_of_peer peer]
    rfl

theorem Spread.tipset?_arrived {before after : Network} {roster : Roster} {mode : AncientMode}
    {maker next old : Creator} {event : Event} (spread : Spread before maker next event after)
    (sound : Sound roster mode before) (among : old ∈ before.creators) (descriptor : EventDescriptor) :
    (old.ancestry.receive roster (.ofEvent (before.numbered event) old.seat.node)).2.tipset? descriptor =
      if event.descriptor = descriptor then
        some (old.ancestry.receive roster (.ofEvent (before.numbered event) old.seat.node)).1
      else old.ancestry.tipset? descriptor := by
  have young : old.ancestry.window.isAncient event.descriptor = false := by
    have same : old.ancestry.window = before.consensus.window := sound.windows old among
    rw [same, spread.young sound]
  simp [Ancestry.tipset?_receive, young]

def Course.Current (course : Course) (descriptor : EventDescriptor) : Prop :=
  descriptor ∈ course.created.map Event.descriptor ∧
    course.network.consensus.window.isAncient descriptor = false

structure Agreed (roster : Roster) (course : Course) : Prop where
  orderly : course.network.consensus.Orderly
  numbered : ∀ event ∈ course.created, event.nGen.isSome = true
  held : ∀ hash descriptor nGen, course.network.consensus.numbers.find? hash = some (descriptor, nGen) ↔
    (∃ event ∈ course.created, event.hash = hash ∧ event.descriptor = descriptor ∧ event.nGen = some nGen) ∧
      course.network.consensus.window.isAncient descriptor = false
  tracked : ∀ creator ∈ course.network.creators, ∀ descriptor,
    (creator.ancestry.tipset? descriptor).isSome = true ↔ course.Current descriptor
  tips : ∀ a ∈ course.network.creators, ∀ b ∈ course.network.creators, ∀ node, roster.contains node = true →
    node ≠ a.seat.node → node ≠ b.seat.node → ∀ descriptor,
      (a.ancestry.tipset? descriptor).map (fun tipset => tipset.tip roster node) =
        (b.ancestry.tipset? descriptor).map fun tipset => tipset.tip roster node

section Agreed

variable {roster : Roster} {mode : AncientMode} {before after : Course}

theorem Agreed.startEach (roster : Roster) (mode : AncientMode) (settings : NodeId → CreationSettings)
    (signer : NodeId → Signer) : Agreed roster ⟨startEach roster mode settings signer, []⟩ := by
  have nothing : ∀ creator ∈ (Network.startEach roster mode settings signer).creators, ∀ descriptor,
      creator.ancestry.tipset? descriptor = none := by
    intro creator listed descriptor
    simp only [Network.startEach, creators, List.map_map, List.mem_map] at listed
    obtain ⟨seat, _, rfl⟩ := listed
    rfl
  constructor
  case orderly => exact .start mode _
  case numbered => simp
  case held => simp [Network.startEach, Consensus.start]
  case tracked =>
    intro creator listed descriptor
    simp [nothing creator listed, Course.Current]
  case tips =>
    intro a listedA b listedB node _ _ _ descriptor
    rw [nothing a listedA, nothing b listedB]

theorem Agreed.held_spread (agreed : Agreed roster before) (sound : Sound roster mode before.network)
    {maker next : Creator} {event : Event} (spread : Spread before.network maker next event after.network)
    (fresh : event.hash ∉ before.created.map Event.hash) (hash : EventHash) (descriptor : EventDescriptor)
    (nGen : Generation) :
    after.network.consensus.numbers.find? hash = some (descriptor, nGen) ↔
      (∃ other ∈ before.network.numbered event :: before.created, other.hash = hash ∧
          other.descriptor = descriptor ∧ other.nGen = some nGen) ∧
        before.network.consensus.window.isAncient descriptor = false := by
  rw [spread.consensus]
  simp only [Consensus.enter, Table.find?_insert]
  split
  · rename_i same
    subst same
    constructor
    · intro found
      cases found
      exact ⟨⟨_, List.mem_cons_self, rfl, rfl, rfl⟩, spread.young sound⟩
    · rintro ⟨⟨other, listed, sameHash, rfl, numbered⟩, _⟩
      rcases List.mem_cons.mp listed with rfl | earlier
      · cases numbered
        rfl
      · exact absurd (sameHash ▸ List.mem_map_of_mem earlier) fresh
  · rename_i different
    rw [agreed.held]
    constructor
    · rintro ⟨⟨other, earlier, rest⟩, kept⟩
      exact ⟨⟨other, List.mem_cons_of_mem _ earlier, rest⟩, kept⟩
    · rintro ⟨⟨other, listed, sameHash, rest⟩, kept⟩
      rcases List.mem_cons.mp listed with rfl | earlier
      · exact absurd sameHash different
      · exact ⟨⟨other, earlier, sameHash, rest⟩, kept⟩

theorem Agreed.spread (agreed : Agreed roster before) (sound : Sound roster mode before.network)
    {maker next : Creator} {event : Event} (spread : Spread before.network maker next event after.network)
    (created : after.created = before.network.numbered event :: before.created)
    (fresh : event.hash ∉ before.created.map Event.hash) : Agreed roster after := by
  have window : after.network.consensus.window = before.network.consensus.window := by
    rw [spread.consensus]
    rfl
  have young := spread.young sound
  have arrived := spread.arrived sound
  constructor
  case orderly =>
    rw [spread.consensus]
    exact agreed.orderly.enter event _
  case numbered =>
    intro other listed
    rw [created] at listed
    rcases List.mem_cons.mp listed with rfl | earlier
    · rfl
    · exact agreed.numbered other earlier
  case held =>
    intro hash descriptor nGen
    rw [window, created]
    exact agreed.held_spread sound spread fresh hash descriptor nGen
  case tracked =>
    intro creator listed descriptor
    obtain ⟨old, among, _, ancestry⟩ := arrived creator listed
    rw [ancestry, spread.tipset?_arrived sound among, Course.Current, created, window]
    split
    · rename_i same
      subst same
      simp [young]
    · rename_i different
      rw [agreed.tracked old among, Course.Current, List.map_cons, List.mem_cons, descriptor_numbered]
      have other : descriptor ≠ event.descriptor := fun same => different same.symm
      simp [other]
  case tips =>
    -- Its maker and the others store the event in different ways, with the same tips of third members.
    intro a listedA b listedB node member otherA otherB descriptor
    obtain ⟨oldA, amongA, seatA, ancestryA⟩ := arrived a listedA
    obtain ⟨oldB, amongB, seatB, ancestryB⟩ := arrived b listedB
    rw [seatA] at otherA
    rw [seatB] at otherB
    have tips := agreed.tips oldA amongA oldB amongB node member otherA otherB
    rw [ancestryA, ancestryB, spread.tipset?_arrived sound amongA, spread.tipset?_arrived sound amongB]
    split
    · rw [Option.map_some, Option.map_some, Ancestry.tip_receive_ofEvent _ _ _ member,
        Ancestry.tip_receive_ofEvent _ _ _ member, if_neg otherA, if_neg otherB,
        Ancestry.tip_mergedParents_congr fun parent _ => tips parent]
    · exact tips descriptor

theorem Agreed.idle (agreed : Agreed roster before) (idle : Idle before.network after.network)
    (created : after.created = before.created) : Agreed roster after := by
  have same : ∀ creator ∈ after.network.creators, ∃ old ∈ before.network.creators,
      creator.seat = old.seat ∧ creator.ancestry = old.ancestry := by
    intro creator listed
    obtain ⟨old, among, agrees, _⟩ := idle.creators creator listed
    exact ⟨old, among, agrees.seat, agrees.ancestry⟩
  constructor
  case orderly =>
    rw [idle.consensus]
    exact agreed.orderly
  case numbered =>
    rw [created]
    exact agreed.numbered
  case held =>
    rw [idle.consensus, created]
    exact agreed.held
  case tracked =>
    intro creator listed descriptor
    obtain ⟨old, among, _, ancestry⟩ := same creator listed
    rw [ancestry, agreed.tracked old among, Course.Current, Course.Current, idle.consensus, created]
  case tips =>
    intro a listedA b listedB node member otherA otherB descriptor
    obtain ⟨oldA, amongA, seatA, ancestryA⟩ := same a listedA
    obtain ⟨oldB, amongB, seatB, ancestryB⟩ := same b listedB
    rw [ancestryA, ancestryB]
    exact agreed.tips oldA amongA oldB amongB node member (seatA ▸ otherA) (seatB ▸ otherB) descriptor

theorem Agreed.turned (agreed : Agreed roster before) (turned : Turned before.network after.network)
    (created : after.created = before.created) : Agreed roster after := by
  have moved := Consensus.moved_of_advanceRound turned.consensus
  constructor
  case orderly => exact moved.orderly
  case numbered =>
    rw [created]
    exact agreed.numbered
  case held =>
    intro hash descriptor nGen
    rw [moved.numbers, Table.find?_filter, Option.filter_eq_some_iff, agreed.held, created]
    simp only [Bool.not_eq_true']
    constructor
    · rintro ⟨⟨made, _⟩, young⟩
      exact ⟨made, young⟩
    · rintro ⟨made, young⟩
      exact ⟨⟨made, agreed.orderly.isAncient moved young⟩, young⟩
  case tracked =>
    intro creator listed descriptor
    rw [turned.creators, List.mem_map] at listed
    obtain ⟨old, among, rfl⟩ := listed
    simp only [Creator.setWindow, Ancestry.tipset?_pruned, Course.Current, created]
    cases ancient : after.network.consensus.window.isAncient descriptor with
    | true => simp
    | false =>
        -- Under the older window the descriptor was not ancient either.
        have before := agreed.orderly.isAncient moved ancient
        have tracked := agreed.tracked old among descriptor
        simp only [Course.Current, before, and_true] at tracked
        simp [tracked]
  case tips =>
    intro a listedA b listedB node member otherA otherB descriptor
    rw [turned.creators, List.mem_map] at listedA listedB
    obtain ⟨oldA, amongA, rfl⟩ := listedA
    obtain ⟨oldB, amongB, rfl⟩ := listedB
    have tips := agreed.tips oldA amongA oldB amongB node member otherA otherB descriptor
    simp only [Creator.setWindow, Ancestry.tipset?_pruned]
    split
    · rfl
    · exact tips

theorem Agreed.next (agreed : Agreed roster before) (sound : Sound roster mode before.network) (move : Move)
    (distinct : ((before.next move).created.map Event.hash).Nodup) : Agreed roster (before.next move) := by
  rcases Course.next_cases sound.ready move with ⟨maker, next, event, spread, created⟩ | ⟨created, idle | turned⟩
  · apply agreed.spread sound spread created
    rw [created] at distinct
    exact (List.nodup_cons.mp distinct).1
  · exact agreed.idle idle created
  · exact agreed.turned turned created

end Agreed

theorem Course.created_suffix {course : Course} (ready : Ready course.network) (move : Move) :
    course.created <:+ (course.next move).created := by
  rcases Course.next_cases ready move with ⟨_, _, _, _, created⟩ | ⟨created, _⟩
  · rw [created]
    exact List.suffix_cons _ _
  · rw [created]

theorem agreed_course (roster : Roster) (mode : AncientMode) (settings : NodeId → CreationSettings)
    (signer : NodeId → Signer) (moves : List Move)
    (distinct : (((startEach roster mode settings signer).course moves).created.map Event.hash).Nodup) :
    Agreed roster ((startEach roster mode settings signer).course moves) := by
  induction moves using List.reverseRecOn with
  | nil => exact .startEach roster mode settings signer
  | append_singleton moves move ih =>
      have sound := sound_course roster mode settings signer moves
      rw [course_concat] at distinct ⊢
      -- The events of a beginning are among those of the whole run, so their hashes are distinct too.
      have older := (Course.created_suffix sound.ready move).sublist.map Event.hash
      exact (ih (distinct.sublist older)).next sound move distinct

/-- After any attempts and rounds, as long as no two events have the same hash: every creator has the window of
consensus; every creator tracks, and consensus has numbers of, just the events that were made and are not ancient
under that window; and any two creators have the same tip of every other member for every event. -/
theorem creators_agree (roster : Roster) (mode : AncientMode) (settings : NodeId → CreationSettings)
    (signer : NodeId → Signer) (moves : List Move)
    (distinct : (((startEach roster mode settings signer).course moves).created.map Event.hash).Nodup) :
    let course := (startEach roster mode settings signer).course moves
    (course.network.creators.map fun creator => creator.seat.node) = roster.nodes ∧
      (∀ creator ∈ course.network.creators, creator.window = course.network.consensus.window) ∧
      (∀ creator ∈ course.network.creators, ∀ descriptor,
        (creator.ancestry.tipset? descriptor).isSome = true ↔ course.Current descriptor) ∧
      (∀ descriptor, descriptor ∈ course.network.consensus.numbers.values.map Prod.fst ↔
        course.Current descriptor) ∧
      ∀ a ∈ course.network.creators, ∀ b ∈ course.network.creators, ∀ node ∈ roster.nodes,
        node ≠ a.seat.node → node ≠ b.seat.node → ∀ descriptor tipsetA tipsetB,
          a.ancestry.tipset? descriptor = some tipsetA → b.ancestry.tipset? descriptor = some tipsetB →
            tipsetA.tip roster node = tipsetB.tip roster node := by
  intro course
  have sound := sound_course roster mode settings signer moves
  have agreed := agreed_course roster mode settings signer moves distinct
  refine ⟨sound.nodes, sound.windows, agreed.tracked, ?_, ?_⟩
  · intro descriptor
    rw [List.mem_map]
    constructor
    · rintro ⟨⟨_, nGen⟩, listed, rfl⟩
      obtain ⟨hash, found⟩ := Table.mem_values_iff.mp listed
      obtain ⟨⟨event, made, _, named, _⟩, young⟩ := (agreed.held hash _ nGen).mp found
      exact ⟨List.mem_map.mpr ⟨event, made, named⟩, young⟩
    · rintro ⟨made, young⟩
      obtain ⟨event, listed, rfl⟩ := List.mem_map.mp made
      obtain ⟨nGen, numbered⟩ := Option.isSome_iff_exists.mp (agreed.numbered event listed)
      have found := (agreed.held event.hash event.descriptor nGen).mpr ⟨⟨event, listed, rfl, rfl, numbered⟩, young⟩
      exact ⟨_, Table.mem_values_iff.mpr ⟨_, found⟩, rfl⟩
  · intro a listedA b listedB node member otherA otherB descriptor tipsetA tipsetB knownA knownB
    obtain ⟨entry, among, rfl⟩ := List.mem_map.mp member
    have same := agreed.tips a listedA b listedB entry.node (Roster.contains_iff.mpr ⟨entry, among, rfl⟩) otherA
      otherB descriptor
    rw [knownA, knownB] at same
    exact Option.some.inj same

def agingMoves : List Move :=
  [0, 1, 2, 0].map .attempt ++ List.replicate 20 .round ++ [1, 2, 0].map .attempt ++ List.replicate 8 .round ++
    [.attempt 1]

theorem agingMoves_leave_four_events :
    let course := (startEach Creator.triadSeat.roster .birthRoundThreshold (fun _ => .default)
      fun _ => .absent).course agingMoves
    course.created.length = 8 ∧
      (∀ descriptor, descriptor ∈ (course.created.take 4).map Event.descriptor ↔ course.Current descriptor) ∧
      ∀ creator ∈ course.network.creators, ∀ descriptor,
        (creator.ancestry.tipset? descriptor).isSome = true ↔ course.Current descriptor := by
  have facts :
      let course := (startEach Creator.triadSeat.roster .birthRoundThreshold (fun _ => .default)
        fun _ => .absent).course agingMoves
      (course.created.map Event.hash).Nodup ∧ course.created.length = 8 ∧
        course.network.consensus.numbers.values.map Prod.fst = (course.created.take 4).map Event.descriptor := by
    decide +kernel
  obtain ⟨distinct, made, held⟩ := facts
  obtain ⟨_, _, tracked, numbers, _⟩ := creators_agree Creator.triadSeat.roster .birthRoundThreshold
    (fun _ => .default) (fun _ => .absent) agingMoves distinct
  refine ⟨made, ?_, tracked⟩
  intro descriptor
  rw [← held]
  exact numbers descriptor

end Network

end Hashgraph
