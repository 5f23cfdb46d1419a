import Hashgraph.Proofs.Agreement
import Hashgraph.Proofs.Generations
import Hashgraph.Proofs.Refusals

/-! Networks before their first round. Consensus then still has the numbers of all events, so a new number lies
above those of the event's parents, and along the events of each creator numbers rise. A network makes less than
one event in a millisecond, which is too few for numbers to start again within the calendar. -/

namespace Hashgraph

namespace Creator

theorem nextTime?_of_finished {creator : Creator} {now : Instant}
    (finished : ∀ last, creator.lastSelfEvent = some last → last.finish ≤ now.nanos) :
    creator.nextTime? now = some now := by
  unfold nextTime?
  cases held : creator.lastSelfEvent with
  | none => rfl
  | some last =>
      have passed := finished last held
      have started := last.start_lt_finish
      have earliest := last.timeCreated.earliest_le
      have latest := now.le_latest
      have moved : last.timeCreated.plus? (max last.transactions.length 1 : Nat) =
          some ⟨last.finish, by omega, by omega⟩ := Instant.ofNanos?_eq_some.mpr rfl
      simp only [moved, Option.map_some, Option.some.injEq, Instant.later]
      split
      · rename_i reached
        obtain ⟨nanos, _, _⟩ := now
        simp only [Instant.mk.injEq] at reached passed ⊢
        omega
      · rfl

theorem nextTime?_of_onTime {creator : Creator} {earlier now : Instant}
    (onTime : ∀ last, creator.lastSelfEvent = some last → last.finish ≤ earlier.nanos + 1)
    (moved : earlier.plusMillis? 1 = some now) : creator.nextTime? now = some now := by
  have later := Network.nanos_of_plusMillis? moved
  apply nextTime?_of_finished
  intro last held
  have finished := onTime last held
  omega

theorem young_at_start {creator : Creator} (window : creator.window = .genesis creator.mode)
    (generation : Generation) : creator.window.isAncientIndicator (creator.nextIndicator generation) = false := by
  unfold nextIndicator nextBirthRound EventWindow.isAncientIndicator
  cases mode : creator.mode with
  | birthRoundThreshold => simp [window, mode, EventWindow.genesis, AncientMode.firstIndicator]
  | generationThreshold => simp [window, mode, EventWindow.genesis, AncientMode.firstIndicator, firstGeneration]

theorem Lived.stocked {mode : AncientMode} {creator : Creator} (lived : Lived mode creator) : Stocked creator := by
  obtain ⟨settings, actions, _, equal⟩ := lived
  have stocked := stocked_history creator.seat mode settings actions
  rwa [← equal] at stocked

end Creator

namespace Network

theorem Spread.finish_le {before after : Network} {maker next : Creator} {event : Event}
    (spread : Spread before maker next event after)
    (onTime : ∀ last, maker.lastSelfEvent = some last → last.finish ≤ before.clock.nanos + 1) :
    event.finish ≤ after.clock.nanos + 1 := by
  obtain ⟨signer, other, _, made, outcome, _⟩ := spread.built
  obtain ⟨time, transactions, _, timed, _, content⟩ := made.content
  have bare : event.transactions = [] :=
    ((maker.attempt_spends _ _ _).created event outcome).1
  have prompt : time = after.clock := by
    rw [Creator.nextTime?_of_onTime onTime spread.clock] at timed
    exact (Option.some.inj timed).symm
  have started : event.timeCreated = time := by
    rw [content]
    rfl
  rw [Event.finish, started, prompt, bare]
  exact Int.le_refl _

theorem Spread.onTime {roster : Roster} {mode : AncientMode} {before after : Network} {maker next : Creator}
    {event : Event} (spread : Spread before maker next event after) (sound : Sound roster mode before)
    (earlier : ∀ creator ∈ before.creators, ∀ last, creator.lastSelfEvent = some last →
      last.finish ≤ before.clock.nanos + 1) :
    ∀ creator ∈ after.creators, ∀ last, creator.lastSelfEvent = some last → last.finish ≤ after.clock.nanos + 1 := by
  have clock := nanos_of_plusMillis? spread.clock
  intro creator listed last held
  rcases spread.learnt sound creator listed with rfl | ⟨old, among, _, rfl⟩
  · rw [spread.extended.lastSelfEvent] at held
    cases held
    exact spread.finish_le (earlier maker spread.listed)
  · have finished := earlier old among last held
    omega

theorem Idle.onTime {before after : Network} (idle : Idle before after)
    (earlier : ∀ creator ∈ before.creators, ∀ last, creator.lastSelfEvent = some last →
      last.finish ≤ before.clock.nanos + 1) :
    ∀ creator ∈ after.creators, ∀ last, creator.lastSelfEvent = some last → last.finish ≤ after.clock.nanos + 1 := by
  have clock := idle.clock
  intro creator listed last held
  obtain ⟨old, among, agrees, _⟩ := idle.creators creator listed
  rw [agrees.lastSelfEvent] at held
  have finished := earlier old among last held
  omega

def Course.latest (course : Course) (node : NodeId) : Option Event :=
  course.created.find? fun event => decide (event.creator = node)

theorem Course.latest_eq_some {course : Course} {node : NodeId} {latest : Event}
    (found : course.latest node = some latest) : latest ∈ course.created ∧ latest.creator = node :=
  ⟨List.mem_of_find?_eq_some found, by simpa using List.find?_some found⟩

theorem Course.exists_latest {course : Course} {event : Event} (made : event ∈ course.created) :
    ∃ latest, course.latest event.creator = some latest := by
  apply Option.isSome_iff_exists.mp
  rw [Course.latest, List.find?_isSome]
  exact ⟨event, made, by simp⟩

structure Early (mode : AncientMode) (course : Course) : Prop where
  window : course.network.consensus.window = .genesis mode
  young : ∀ event ∈ course.created, course.network.consensus.window.isAncient event.descriptor = false
  paced : (course.created.length : Int) * 1000000 ≤ course.network.clock.nanos
  small : ∀ event ∈ course.created, ∀ nGen, event.nGen = some nGen → nGen.toNat < course.created.length
  low : ∀ event ∈ course.created, event.generation.toNat < course.created.length
  rising : course.created.Pairwise fun later earlier => later.creator = earlier.creator →
    Tipset.isBelow earlier.nGen later.nGen = true
  last : ∀ creator ∈ course.network.creators,
    creator.lastDescriptor = (course.latest creator.seat.node).map Event.descriptor
  onTime : ∀ creator ∈ course.network.creators, ∀ last, creator.lastSelfEvent = some last →
    last.finish ≤ course.network.clock.nanos + 1

section Early

variable {roster : Roster} {mode : AncientMode} {before after : Course}

theorem Early.startEach (roster : Roster) (mode : AncientMode) (settings : NodeId → CreationSettings)
    (signer : NodeId → Signer) : Early mode ⟨startEach roster mode settings signer, []⟩ := by
  have nothing : ∀ creator ∈ (Network.startEach roster mode settings signer).creators,
      creator.lastSelfEvent = none := by
    intro creator listed
    simp only [Network.startEach, creators, List.map_map, List.mem_map] at listed
    obtain ⟨seat, _, rfl⟩ := listed
    rfl
  constructor
  case window => rfl
  case young => simp
  case paced => simp [Network.startEach, Instant.epoch]
  case small => simp
  case low => simp
  case rising => exact List.Pairwise.nil
  case last =>
    intro creator listed
    simp [Creator.lastDescriptor, nothing creator listed, Course.latest]
  case onTime =>
    intro creator listed last held
    rw [nothing creator listed] at held
    cases held

theorem Early.current_iff (early : Early mode before) (descriptor : EventDescriptor) :
    before.Current descriptor ↔ descriptor ∈ before.created.map Event.descriptor := by
  constructor
  · exact fun current => current.1
  · intro made
    refine ⟨made, ?_⟩
    obtain ⟨event, listed, rfl⟩ := List.mem_map.mp made
    exact early.young event listed

theorem Early.numberOf? (early : Early mode before) (agreed : Agreed roster before) {event : Event}
    (made : event ∈ before.created) : before.network.consensus.numberOf? event.descriptor = event.nGen := by
  obtain ⟨nGen, numbered⟩ := Option.isSome_iff_exists.mp (agreed.numbered event made)
  have found := (agreed.held event.hash event.descriptor nGen).mpr
    ⟨⟨event, made, rfl, rfl, numbered⟩, early.young event made⟩
  change (before.network.consensus.numbers.find? event.hash).map Prod.snd = _
  rw [found, numbered]
  rfl

theorem Early.numbersBelow (early : Early mode before) (agreed : Agreed roster before) :
    before.network.consensus.NumbersBelow before.created.length := by
  rintro hash ⟨descriptor, nGen⟩ found
  obtain ⟨⟨event, made, _, _, numbered⟩, _⟩ := (agreed.held hash descriptor nGen).mp found
  exact early.small event made nGen numbered

theorem Early.length_lt (early : Early mode before) : before.created.length < UInt64.size - 1 := by
  -- Each event has taken a millisecond, and the calendar ends before there are so many.
  have paced := early.paced
  have latest := before.network.clock.le_latest
  simp only [UInt64.size]
  omega

theorem Early.below_highest (early : Early mode before) {descriptor : EventDescriptor}
    (made : descriptor ∈ before.created.map Event.descriptor) : descriptor.generation < highestGeneration := by
  obtain ⟨event, listed, rfl⟩ := List.mem_map.mp made
  have low := early.low event listed
  have few := early.length_lt
  exact UInt64.lt_iff_toNat_lt.mpr (Nat.lt_trans low few)

theorem Early.below_nextNumber (early : Early mode before) (agreed : Agreed roster before) {event parent : Event}
    {next : Generation} (found : before.network.consensus.nextNumber? event = some next)
    (made : parent ∈ before.created) (named : parent.descriptor ∈ event.parents) :
    Tipset.isBelow parent.nGen (some next) = true := by
  obtain ⟨nGen, numbered⟩ := Option.isSome_iff_exists.mp (agreed.numbered parent made)
  have known := (early.numberOf? agreed made).trans numbered
  have above := Consensus.lt_nextNumber found named known
  rw [UInt64.lt_iff_toNat_lt] at above
  rw [Tipset.isBelow_iff, numbered, Tipset.height_some, Tipset.height_some]
  omega

theorem Early.height_le_latest (early : Early mode before) {event latest : Event} (made : event ∈ before.created)
    (found : before.latest event.creator = some latest) : Tipset.height event.nGen ≤ Tipset.height latest.nGen := by
  obtain ⟨own, newer, older, whole, others⟩ := List.find?_eq_some_iff_append.mp found
  have rising := early.rising
  rw [whole] at made rising
  rcases List.mem_append.mp made with skipped | rest
  · simpa using others event skipped
  · rcases List.mem_cons.mp rest with rfl | behind
    · exact Nat.le_refl _
    · have above := (List.pairwise_cons.mp (List.pairwise_append.mp rising).2.1).1 event behind (by simpa using own)
      rw [Tipset.isBelow_iff] at above
      omega

theorem Early.parents_made (early : Early mode before) (agreed : Agreed roster before)
    (sound : Sound roster mode before.network) {maker next : Creator} {event : Event}
    (spread : Spread before.network maker next event after.network) :
    ∀ parent ∈ event.parents, parent ∈ before.created.map Event.descriptor := by
  obtain ⟨signer, other, may, made, _, _⟩ := spread.built
  have own : ∀ parent ∈ maker.lastDescriptor.toList, parent ∈ before.created.map Event.descriptor := by
    intro parent named
    rw [Option.mem_toList, early.last maker spread.listed, Option.map_eq_some_iff] at named
    obtain ⟨latest, found, rfl⟩ := named
    exact List.mem_map_of_mem (Course.latest_eq_some found).1
  intro parent named
  rw [made.parents] at named
  rcases List.mem_append.mp named with selfParent | otherParent
  · exact own parent selfParent
  · cases may with
    -- A single member names its last event twice.
    | alone _ => exact own parent otherParent
    | @candidate chosen _ listed _ =>
        have same : parent = chosen.descriptor := by simpa using otherParent
        subst same
        have tracked := ((sound.lived maker spread.listed).stocked.suitable listed).tracked
        exact ((agreed.tracked maker spread.listed _).mp tracked).1
    | first _ _ _ => simp at otherParent

theorem Early.generation_le (early : Early mode before) (agreed : Agreed roster before)
    (sound : Sound roster mode before.network) {maker next : Creator} {event : Event}
    (spread : Spread before.network maker next event after.network) :
    event.generation.toNat ≤ before.created.length := by
  have made := early.parents_made agreed sound spread
  obtain ⟨_, _, _, built, _, _⟩ := spread.built
  rw [built.parents] at made
  apply nextGeneration_le built.graded
  intro parent named
  obtain ⟨earlier, listed, rfl⟩ := List.mem_map.mp (made parent named)
  exact early.low earlier listed

theorem Early.below_order (early : Early mode before) (agreed : Agreed roster before) {maker next : Creator}
    {event : Event} (spread : Spread before.network maker next event after.network) {earlier : Event}
    (listed : earlier ∈ before.created) (own : earlier.creator = maker.seat.node) :
    Tipset.isBelow earlier.nGen (before.network.numbered event).nGen = true := by
  obtain ⟨_, _, _, made, _, _⟩ := spread.built
  obtain ⟨latest, found⟩ := Course.exists_latest listed
  have low := early.height_le_latest listed found
  rw [own] at found
  have selfParent : latest.descriptor ∈ event.parents := by
    rw [made.parents, early.last maker spread.listed, found]
    simp
  have below := early.below_nextNumber agreed spread.number (Course.latest_eq_some found).1 selfParent
  rw [Tipset.isBelow_iff] at below ⊢
  exact Nat.lt_of_le_of_lt low below

theorem Early.spread (early : Early mode before) (agreed : Agreed roster before)
    (sound : Sound roster mode before.network) {maker next : Creator} {event : Event}
    (spread : Spread before.network maker next event after.network)
    (created : after.created = before.network.numbered event :: before.created) : Early mode after := by
  have window : after.network.consensus.window = before.network.consensus.window := by
    rw [spread.consensus]
    rfl
  have clock := nanos_of_plusMillis? spread.clock
  constructor
  case window => rw [window, early.window]
  case young =>
    intro other listed
    rw [window]
    rw [created] at listed
    rcases List.mem_cons.mp listed with rfl | earlier
    · exact spread.young sound
    · exact early.young other earlier
  case paced =>
    have paced := early.paced
    have longer : after.created.length = before.created.length + 1 := by rw [created, List.length_cons]
    omega
  case small =>
    intro other listed nGen numbered
    rw [created] at listed ⊢
    rw [List.length_cons]
    rcases List.mem_cons.mp listed with rfl | earlier
    · cases numbered
      have range := early.length_lt
      obtain ⟨next, found, low⟩ := (early.numbersBelow agreed).exists_nextNumber (by omega) event
      cases spread.number.symm.trans found
      exact Nat.lt_succ_of_le low
    · exact Nat.lt_succ_of_lt (early.small other earlier nGen numbered)
  case low =>
    intro other listed
    rw [created] at listed ⊢
    rw [List.length_cons]
    rcases List.mem_cons.mp listed with rfl | earlier
    · have bound := early.generation_le agreed sound spread
      exact Nat.lt_succ_of_le bound
    · exact Nat.lt_succ_of_lt (early.low other earlier)
  case rising =>
    rw [created]
    refine List.pairwise_cons.mpr ⟨?_, early.rising⟩
    intro earlier listed same
    exact early.below_order agreed spread listed (same.symm.trans spread.creator)
  case last =>
    intro creator listed
    rcases spread.learnt sound creator listed with rfl | ⟨old, among, other, rfl⟩
    · rw [Creator.lastDescriptor, spread.extended.lastSelfEvent, spread.extended.seat, Course.latest, created,
        List.find?_cons_of_pos (by simp [spread.creator])]
      rfl
    · change old.lastDescriptor = (after.latest old.seat.node).map _
      rw [Course.latest, created, List.find?_cons_of_neg (by simp [other])]
      exact early.last old among
  case onTime => exact spread.onTime sound early.onTime

theorem Early.idle (early : Early mode before) (idle : Idle before.network after.network)
    (created : after.created = before.created) : Early mode after := by
  have clock := idle.clock
  constructor
  case window => rw [idle.consensus, early.window]
  case young =>
    rw [idle.consensus, created]
    exact early.young
  case paced =>
    have paced := early.paced
    rw [created]
    omega
  case small =>
    rw [created]
    exact early.small
  case low =>
    rw [created]
    exact early.low
  case rising =>
    rw [created]
    exact early.rising
  case last =>
    intro creator listed
    obtain ⟨old, among, agrees, _⟩ := idle.creators creator listed
    rw [Creator.lastDescriptor, agrees.lastSelfEvent, agrees.seat, Course.latest, created]
    exact early.last old among
  case onTime => exact idle.onTime early.onTime

end Early

end Network

end Hashgraph
