import Hashgraph.Proofs.Chance
import Hashgraph.Proofs.News

/-! Before the first round nobody is blocked once all others have spoken: a member that has made no event may
start, and for any other one the news of all other members together are a gain. So round robin never stops. -/

namespace Hashgraph

namespace Creator

variable {σ : Type}

theorem attempt_creates {creator : Creator} (sameMode : creator.window.mode = creator.mode)
    (low : LowGenerations creator) (surroundings : Surroundings σ) {now time : Instant}
    (timed : creator.nextTime? now = some time) (supply : σ) (may : ∃ other, MayBuildOn creator other)
    (young : ∀ generation, creator.window.isAncientIndicator (creator.nextIndicator generation) = false) :
    ∃ event, (creator.attempt surroundings now supply).outcome = .ok (some event) := by
  rcases attempt_outcome sameMode surroundings timed supply with ⟨other, possible, outcome⟩ | ⟨nobody, _⟩
  · obtain ⟨generation, graded⟩ := low.graded possible
    refine ⟨creator.nextEvent surroundings time supply other, ?_⟩
    have age : creator.window.isAncient (creator.nextEvent surroundings time supply other).descriptor = false :=
      (isAncient_nextContent sameMode _ _ _ _).trans (young _)
    rw [outcome, outcomeOn_of_graded graded, age]
    rfl
  · obtain ⟨other, allowed⟩ := may
    exact absurd allowed (nobody other)

theorem Lived.some_gain {mode : AncientMode} {creator : Creator} (lived : Lived mode creator)
    (several : 2 ≤ creator.seat.roster.size) (weighted : 0 < creator.seat.roster.total)
    (tracked : ∀ last, creator.lastSelfEvent = some last →
      (creator.ancestry.tipset? last.descriptor).isSome = true)
    (news : ∀ node, creator.seat.roster.contains node = true → node ≠ creator.seat.node →
      ∃ event ∈ creator.childless.events, ∃ tipset, creator.ancestry.tipset? event.descriptor = some tipset ∧
        Tipset.isBelow (creator.progress.snapshot.tip creator.seat.roster node)
          (tipset.tip creator.seat.roster node) = true) :
    ∃ event ∈ creator.childless.events, (creator.gain event).isNonZero = true := by
  obtain ⟨settings, actions, _, equal⟩ := lived
  have measured := measured_history creator.seat mode settings actions
  have chained := chained_history (Creator.start creator.seat mode settings) actions
  have gains := measured.some_gain chained several weighted
  rw [← equal] at gains
  exact gains tracked news

end Creator

namespace Network

open Creator (MayBuildOn)

structure Opening (roster : Roster) (mode : AncientMode) (course : Course) : Prop where
  sound : Sound roster mode course.network
  agreed : Agreed roster course
  early : Early mode course
  sourced : ∀ creator ∈ course.network.creators, Sourced roster course.created creator
  informed : ∀ creator ∈ course.network.creators, Informed roster course creator

section Opening

variable {roster : Roster} {mode : AncientMode} {before after course : Course}

theorem Opening.startEach (roster : Roster) (mode : AncientMode) (settings : NodeId → CreationSettings)
    (signer : NodeId → Signer) : Opening roster mode ⟨startEach roster mode settings signer, []⟩ := by
  have blank : ∀ creator ∈ (Network.startEach roster mode settings signer).creators,
      (∀ descriptor, creator.ancestry.tipset? descriptor = none) ∧ creator.progress = .start roster ∧
        creator.childless = .empty := by
    intro creator listed
    simp only [Network.startEach, creators, List.map_map, List.mem_map] at listed
    obtain ⟨seat, among, rfl⟩ := listed
    exact ⟨fun _ => rfl, congrArg Progress.start (roster_of_seat among), rfl⟩
  refine ⟨.startEach roster mode settings signer, .startEach roster mode settings signer,
    .startEach roster mode settings signer, ?_, ?_⟩
  · intro creator listed
    obtain ⟨unknown, progress, _⟩ := blank creator listed
    constructor
    · intro descriptor tipset found
      rw [unknown] at found
      cases found
    · intro node nGen found
      simp [progress, Progress.start] at found
  · intro creator listed
    obtain ⟨_, _, childless⟩ := blank creator listed
    constructor
    · intro node event found
      simp [childless, ChildlessEvents.empty] at found
    · simp [Course.since]
    · simp [Course.since]

theorem Opening.idle (opening : Opening roster mode before) (idle : Idle before.network after.network)
    (created : after.created = before.created) : Opening roster mode after := by
  refine ⟨opening.sound.idle idle, opening.agreed.idle idle created, opening.early.idle idle created, ?_, ?_⟩
  · intro creator listed
    obtain ⟨old, among, agrees, _⟩ := idle.creators creator listed
    have sourced := opening.sourced old among
    rw [created]
    constructor
    · rw [agrees.ancestry]
      exact sourced.tipsets
    · rw [agrees.progress]
      exact sourced.snapshot
  · intro creator listed
    obtain ⟨old, among, agrees, _⟩ := idle.creators creator listed
    have informed := opening.informed old among
    constructor
    · rw [agrees.childless, agrees.seat]
      intro node event found
      rw [Course.latest, created]
      exact informed.newest node event found
    · rw [agrees.progress, agrees.seat, Course.since, created]
      exact informed.ahead
    · rw [agrees.childless, agrees.ancestry, agrees.seat, Course.since, created]
      exact informed.carried

theorem Opening.next (opening : Opening roster mode before) (position : Nat)
    (distinct : ((before.next (.attempt position)).created.map Event.hash).Nodup) :
    Opening roster mode (before.next (.attempt position)) := by
  rcases Course.next_attempt_cases opening.sound.ready position with
    ⟨maker, next, event, _, spread, created⟩ | ⟨_, idle, created⟩
  · have fresh : event.hash ∉ before.created.map Event.hash := by
      rw [created] at distinct
      exact (List.nodup_cons.mp distinct).1
    have step : Publication roster mode before _ maker next event :=
      ⟨opening.sound, opening.agreed, opening.early, spread, created, fresh⟩
    exact ⟨step.after_sound, opening.agreed.spread opening.sound spread created fresh,
      opening.early.spread opening.agreed opening.sound spread created, step.sourced opening.sourced,
      step.informed opening.informed opening.sourced⟩
  · exact opening.idle idle created

theorem opening_course (roster : Roster) (mode : AncientMode) (settings : NodeId → CreationSettings)
    (signer : NodeId → Signer) (positions : List Nat)
    (distinct : (((startEach roster mode settings signer).course (positions.map .attempt)).created.map
      Event.hash).Nodup) :
    Opening roster mode ((startEach roster mode settings signer).course (positions.map .attempt)) := by
  induction positions using List.reverseRecOn with
  | nil => exact .startEach roster mode settings signer
  | append_singleton positions position ih =>
      have sound := sound_course roster mode settings signer (positions.map .attempt)
      rw [List.map_append, List.map_singleton, course_concat] at distinct ⊢
      have older := (Course.created_suffix sound.ready (.attempt position)).sublist.map Event.hash
      exact (ih (distinct.sublist older)).next position distinct

theorem Opening.mayBuildOn (opening : Opening roster mode course) (weighted : 0 < roster.total) {creator : Creator}
    (listed : creator ∈ course.network.creators)
    (told : (∀ event ∈ course.created, event.creator ≠ creator.seat.node) ∨
      ∀ node ∈ roster.nodes, node ≠ creator.seat.node →
        ∃ event ∈ course.since creator.seat.node, event.creator = node) :
    ∃ other, MayBuildOn creator other := by
  have seated := opening.sound.roster_of_mem listed
  by_cases alone : creator.seat.roster.size = 1
  · exact ⟨_, .alone alone⟩
  apply (Creator.exists_mayBuildOn_iff alone).mpr
  have last := opening.early.last creator listed
  rcases told with silent | news
  · right
    have nothing : course.latest creator.seat.node = none := by
      rw [Course.latest, List.find?_eq_none]
      intro event made
      simpa using silent event made
    rw [nothing, Creator.lastDescriptor, Option.map_none, Option.map_eq_none_iff] at last
    refine ⟨last, ?_⟩
    rw [opening.sound.windows creator listed, opening.early.window]
    rfl
  · -- The last event is tracked still, and each member's news is above the snapshot on some childless event.
    left
    have several : 2 ≤ creator.seat.roster.size := by
      have inhabited := List.length_pos_of_ne_nil creator.seat.roster.nonempty
      unfold Roster.size at alone ⊢
      omega
    apply (opening.sound.lived creator listed).some_gain several (seated.symm ▸ weighted)
    · intro event held
      rw [Creator.lastDescriptor, held, Option.map_some] at last
      obtain ⟨latest, found, same⟩ := Option.map_eq_some_iff.mp last.symm
      rw [opening.agreed.tracked creator listed, opening.early.current_iff, ← same]
      exact List.mem_map_of_mem (Course.latest_eq_some found).1
    · intro node member different
      rw [seated] at member ⊢
      obtain ⟨entry, among, rfl⟩ := Roster.contains_iff.mp member
      obtain ⟨event, since, same⟩ := news entry.node (List.mem_map_of_mem among) different
      have ahead := (opening.informed creator listed).ahead event since
      obtain ⟨carrier, present, tipset, known, high⟩ := (opening.informed creator listed).carried event since
      rw [same] at ahead high
      exact ⟨carrier, present, tipset, known, (Tipset.isBelow_iff _ _).mpr (Nat.lt_of_lt_of_le ahead high)⟩

theorem Opening.low (opening : Opening roster mode course) {creator : Creator}
    (listed : creator ∈ course.network.creators) : Creator.LowGenerations creator where
  candidates := by
    intro event candidate
    have tracked := ((opening.sound.lived creator listed).stocked.suitable candidate).tracked
    exact opening.early.below_highest ((opening.agreed.tracked creator listed _).mp tracked).1
  last := by
    intro event held
    have last := opening.early.last creator listed
    rw [Creator.lastDescriptor, held, Option.map_some] at last
    obtain ⟨latest, found, same⟩ := Option.map_eq_some_iff.mp last.symm
    have made : event.descriptor ∈ course.created.map Event.descriptor := by
      rw [← same]
      exact List.mem_map_of_mem (Course.latest_eq_some found).1
    exact opening.early.below_highest made

theorem Opening.creates (opening : Opening roster mode course) (weighted : 0 < roster.total) {position : Nat}
    {node : NodeId} (placed : roster.nodes[position]? = some node)
    (timed : (course.network.clock.plusMillis? 1).isSome = true)
    (told : (∀ event ∈ course.created, event.creator ≠ node) ∨
      ∀ other ∈ roster.nodes, other ≠ node → ∃ event ∈ course.since node, event.creator = other) :
    ∃ event, (course.network.attempt position []).1 = .ok (some event) ∧ event.creator = node := by
  obtain ⟨clock, moved⟩ := Option.isSome_iff_exists.mp timed
  rw [← opening.sound.nodes, List.getElem?_map, Option.map_eq_some_iff] at placed
  obtain ⟨creator, found, rfl⟩ := placed
  have listed := List.mem_of_getElem? found
  have lived := opening.sound.lived creator listed
  have window : creator.window = .genesis creator.mode := by
    rw [← lived.sameMode, opening.sound.windows creator listed, opening.early.window]
    rfl
  have prompt := Creator.nextTime?_of_onTime (opening.early.onTime creator listed) moved
  have asked := found
  rw [creators, List.getElem?_map, Option.map_eq_some_iff] at asked
  obtain ⟨peer, present, rfl⟩ := asked
  obtain ⟨event, created⟩ := Creator.attempt_creates lived.sameMode (opening.low listed)
    (noTransactions peer.signer) prompt () (opening.mayBuildOn weighted listed told)
    (Creator.young_at_start window)
  rcases attempt_cases opening.sound.ready position with
    ⟨maker, next, made, placed, outcome, spread⟩ | ⟨refused, _⟩
  · refine ⟨course.network.numbered made, outcome, ?_⟩
    rw [placed] at found
    cases found
    exact spread.creator
  · apply absurd _ (refused (course.network.numbered event))
    rw [attempt_of_peer opening.sound.ready moved present, created]

theorem Opening.next_created (opening : Opening roster mode course) {position : Nat} {node : NodeId}
    (placed : roster.nodes[position]? = some node)
    (created : ∃ event, (course.network.attempt position []).1 = .ok (some event)) :
    ∃ event, (course.next (.attempt position)).created = event :: course.created ∧ event.creator = node ∧
      (course.next (.attempt position)).network.clock.nanos = course.network.clock.nanos + 1000000 := by
  obtain ⟨event, outcome⟩ := created
  rcases Course.next_attempt_cases opening.sound.ready position with
    ⟨maker, next, made, found, spread, longer⟩ | ⟨refused, _⟩
  · refine ⟨_, longer, ?_, nanos_of_plusMillis? spread.clock⟩
    rw [← opening.sound.nodes, List.getElem?_map, found, Option.map_some, Option.some.injEq] at placed
    exact spread.creator.trans placed
  · exact absurd outcome (refused event)

end Opening

/-! ### Round robin -/

def roundRobin (roster : Roster) (length : Nat) : List Nat := (List.range length).map (· % roster.size)

theorem roundRobin_succ (roster : Roster) (length : Nat) :
    roundRobin roster (length + 1) = roundRobin roster length ++ [length % roster.size] := by
  simp [roundRobin, List.range_succ]

theorem mem_takeWhile_of_getElem? {α : Type} {accept : α → Bool} {items : List α} {place : Nat} {item : α}
    (found : items[place]? = some item)
    (accepted : ∀ earlier ≤ place, ∀ other, items[earlier]? = some other → accept other = true) :
    item ∈ items.takeWhile accept := by
  induction items generalizing place with
  | nil => simp at found
  | cons first rest ih =>
      rw [List.takeWhile_cons_of_pos (accepted 0 (Nat.zero_le _) first rfl)]
      cases place with
      | zero =>
          simp only [List.getElem?_cons_zero, Option.some.injEq] at found
          exact found ▸ List.mem_cons_self
      | succ place =>
          apply List.mem_cons_of_mem
          apply ih (by simpa using found)
          intro earlier bound other held
          exact accepted (earlier + 1) (by omega) other (by simpa using held)

theorem exists_recent {size step rest : Nat} (bound : rest < size) (full : size ≤ step) (other : rest ≠ step % size) :
    ∃ recent, recent < step ∧ step < recent + size ∧ recent % size = rest := by
  have split := Nat.div_add_mod step size
  have below := Nat.mod_lt step (Nat.lt_of_le_of_lt (Nat.zero_le _) bound)
  by_cases before : rest < step % size
  · refine ⟨size * (step / size) + rest, by omega, by omega, ?_⟩
    rw [Nat.mul_add_mod, Nat.mod_eq_of_lt bound]
  · have turns : 0 < step / size := Nat.div_pos full (by omega)
    obtain ⟨turn, equal⟩ := Nat.exists_eq_succ_of_ne_zero turns.ne'
    rw [equal, Nat.succ_eq_add_one, Nat.mul_add, Nat.mul_one] at split
    refine ⟨size * turn + rest, by omega, by omega, ?_⟩
    rw [Nat.mul_add_mod, Nat.mod_eq_of_lt bound]

theorem mod_ne_of_recent {size step recent : Nat} (earlier : recent < step) (near : step < recent + size) :
    recent % size ≠ step % size := by
  intro same
  have apart := Nat.sub_mod_eq_zero_of_mod_eq same.symm
  rw [Nat.mod_eq_of_lt (by omega)] at apart
  omega

theorem exists_turn (roster : Roster) (step : Nat) : ∃ node, roster.nodes[step % roster.size]? = some node := by
  have inhabited := List.length_pos_of_ne_nil roster.nonempty
  have bound : step % roster.size < roster.nodes.length := by
    simpa [Roster.nodes, Roster.size] using Nat.mod_lt step inhabited
  exact ⟨_, List.getElem?_eq_getElem bound⟩

structure Turns (roster : Roster) (steps : Nat) (course : Course) : Prop where
  creators : (course.created.map fun event => some event.creator) =
    (List.range steps).reverse.map fun step => roster.nodes[step % roster.size]?
  clock : course.network.clock.nanos = steps * 1000000

section Turns

variable {roster : Roster} {mode : AncientMode} {steps : Nat} {course : Course}

theorem Turns.creator (turns : Turns roster steps course) {place : Nat} (bound : place < steps) {event : Event}
    (found : course.created[place]? = some event) :
    roster.nodes[(steps - 1 - place) % roster.size]? = some event.creator := by
  have same := congrArg (fun list => list[place]?) turns.creators
  simpa [found, List.getElem?_reverse, List.getElem?_range, bound] using same.symm

theorem Turns.length (turns : Turns roster steps course) : course.created.length = steps := by
  simpa using congrArg List.length turns.creators

theorem Turns.told (turns : Turns roster steps course) {node : NodeId}
    (placed : roster.nodes[steps % roster.size]? = some node) :
    (∀ event ∈ course.created, event.creator ≠ node) ∨
      ∀ other ∈ roster.nodes, other ≠ node → ∃ event ∈ course.since node, event.creator = other := by
  have size : roster.nodes.length = roster.size := by simp [Roster.nodes, Roster.size]
  have inhabited : 0 < roster.size := List.length_pos_of_ne_nil roster.nonempty
  have length := turns.length
  have apart : ∀ step, step < steps → steps < step + roster.size → roster.nodes[step % roster.size]? ≠ some node := by
    intro step earlier near same
    have bound : step % roster.size < roster.nodes.length := by
      rw [size]
      exact Nat.mod_lt step inhabited
    exact mod_ne_of_recent earlier near ((List.getElem?_inj bound roster.distinct).mp (same.trans placed.symm))
  by_cases full : roster.size ≤ steps
  · -- The other member's last turn is less than a round ago, and all turns of the node are further away.
    right
    intro other member different
    obtain ⟨place, bound, found⟩ := List.getElem_of_mem member
    rw [size] at bound
    have found? : roster.nodes[place]? = some other := List.getElem?_eq_some_iff.mpr ⟨_, found⟩
    have elsewhere : place ≠ steps % roster.size := by
      rintro rfl
      exact different (Option.some.inj (found?.symm.trans placed))
    obtain ⟨recent, earlier, near, turn⟩ := exists_recent bound full elsewhere
    have within : steps - 1 - recent < course.created.length := by omega
    have held := List.getElem?_eq_getElem within
    refine ⟨_, mem_takeWhile_of_getElem? held ?_, ?_⟩
    · intro sooner before event known
      have creator := turns.creator (by omega) known
      simp only [decide_eq_true_eq]
      rintro rfl
      exact apart (steps - 1 - sooner) (by omega) (by omega) creator
    · have creator := turns.creator (by omega) held
      rw [show steps - 1 - (steps - 1 - recent) = recent by omega, turn, found?] at creator
      exact (Option.some.inj creator).symm
  · -- In the first round the node has not had its turn yet.
    left
    intro event made
    obtain ⟨place, bound, found⟩ := List.getElem_of_mem made
    have creator := turns.creator (by omega) (List.getElem?_eq_some_iff.mpr ⟨bound, found⟩)
    rintro rfl
    exact apart (steps - 1 - place) (by omega) (by omega) creator

theorem Turns.next (turns : Turns roster steps course) {node : NodeId}
    (placed : roster.nodes[steps % roster.size]? = some node) {after : Course} {event : Event}
    (longer : after.created = event :: course.created) (own : event.creator = node)
    (clock : after.network.clock.nanos = course.network.clock.nanos + 1000000) : Turns roster (steps + 1) after where
  creators := by
    rw [longer, List.map_cons, turns.creators, own, List.range_succ, List.reverse_append, List.reverse_singleton,
      List.singleton_append, List.map_cons, placed]
  clock := by
    rw [clock, turns.clock]
    omega

end Turns

theorem created_suffix_roundRobin (roster : Roster) (mode : AncientMode) (settings : NodeId → CreationSettings)
    (signer : NodeId → Signer) {steps length : Nat} (bound : steps ≤ length) :
    ((startEach roster mode settings signer).course ((roundRobin roster steps).map .attempt)).created <:+
      ((startEach roster mode settings signer).course ((roundRobin roster length).map .attempt)).created := by
  induction length, bound using Nat.le_induction with
  | base => exact List.suffix_refl _
  | succ length _ ih =>
      have sound := sound_course roster mode settings signer ((roundRobin roster length).map .attempt)
      rw [roundRobin_succ, List.map_append, List.map_singleton, course_concat]
      exact ih.trans (Course.created_suffix sound.ready _)

theorem isSome_plusMillis? {clock : Instant} {steps length : Nat} (now : clock.nanos = steps * 1000000)
    (earlier : steps < length) (range : (Instant.epoch.plusMillis? length).isSome = true) :
    (clock.plusMillis? 1).isSome = true := by
  obtain ⟨last, reached⟩ := Option.isSome_iff_exists.mp range
  have end_ : last.nanos = (length : Int) * 1000000 := by
    unfold Instant.plusMillis? at reached
    split at reached
    · cases reached
    · simpa [Instant.epoch] using Instant.ofNanos?_eq_some.mp reached
  have latest := last.le_latest
  have earliest := clock.earliest_le
  have moved : clock.plusMillis? 1 = some ⟨clock.nanos + 1000000, by omega, by omega⟩ :=
    Instant.ofNanos?_eq_some.mpr rfl
  rw [moved]
  rfl

theorem turns_course (roster : Roster) (mode : AncientMode) (settings : NodeId → CreationSettings)
    (signer : NodeId → Signer) (weighted : 0 < roster.total) {length : Nat}
    (range : (Instant.epoch.plusMillis? length).isSome = true)
    (distinct : (((startEach roster mode settings signer).course
      ((roundRobin roster length).map .attempt)).created.map Event.hash).Nodup) {steps : Nat}
    (bound : steps ≤ length) :
    Turns roster steps ((startEach roster mode settings signer).course ((roundRobin roster steps).map .attempt)) := by
  induction steps with
  | zero => exact ⟨rfl, by simp [roundRobin, course, startEach, Instant.epoch]⟩
  | succ steps ih =>
      have turns := ih (by omega)
      have older := (created_suffix_roundRobin roster mode settings signer (Nat.le_of_succ_le bound)).sublist
      have opening := opening_course roster mode settings signer (roundRobin roster steps)
        (distinct.sublist (older.map Event.hash))
      obtain ⟨node, placed⟩ := exists_turn roster steps
      obtain ⟨event, outcome, _⟩ := opening.creates weighted placed (isSome_plusMillis? turns.clock bound range)
        (turns.told placed)
      obtain ⟨made, longer, own, clock⟩ := opening.next_created placed ⟨event, outcome⟩
      rw [roundRobin_succ, List.map_append, List.map_singleton, course_concat]
      exact turns.next placed longer own clock

/-- In a network of a weighted roster, before its first round and as long as no two events have the same hash: if
the member at a position has made no event yet, or all other members have made one since its last one, its next
attempt within the calendar makes an event. So all attempts of a round robin make one. -/
theorem nobody_blocks_once_all_others_have_spoken (roster : Roster) (mode : AncientMode)
    (settings : NodeId → CreationSettings) (signer : NodeId → Signer) (weighted : 0 < roster.total) :
    let start := startEach roster mode settings signer
    (∀ positions : List Nat,
      let course := start.course (positions.map .attempt)
      (course.created.map Event.hash).Nodup → ∀ position node, roster.nodes[position]? = some node →
        (course.network.clock.plusMillis? 1).isSome = true →
        ((∀ event ∈ course.created, event.creator ≠ node) ∨
          ∀ other ∈ roster.nodes, other ≠ node → ∃ event ∈ course.since node, event.creator = other) →
        ∃ event, (course.network.attempt position []).1 = .ok (some event) ∧ event.creator = node) ∧
      ∀ length : Nat, (Instant.epoch.plusMillis? length).isSome = true →
        ((start.course ((roundRobin roster length).map .attempt)).created.map Event.hash).Nodup →
        ∀ step < length, ∃ event, ((start.course ((roundRobin roster step).map .attempt)).network.attempt
          (step % roster.size) []).1 = .ok (some event) := by
  intro start
  constructor
  · intro positions course distinct position node placed timed told
    exact (opening_course roster mode settings signer positions distinct).creates weighted placed timed told
  · intro length range distinct step earlier
    have turns := turns_course roster mode settings signer weighted range distinct (Nat.le_of_lt earlier)
    have older := (created_suffix_roundRobin roster mode settings signer (Nat.le_of_lt earlier)).sublist
    have opening := opening_course roster mode settings signer (roundRobin roster step)
      (distinct.sublist (older.map Event.hash))
    obtain ⟨node, placed⟩ := exists_turn roster step
    obtain ⟨event, created, _⟩ := opening.creates weighted placed
      (isSome_plusMillis? turns.clock earlier range) (turns.told placed)
    exact ⟨event, created⟩

theorem triad_is_never_blocked :
    let start := startEach Creator.triadSeat.roster .generationThreshold (fun _ => .default) fun _ => .absent
    (∃ event, ((start.course ([0, 1, 2, 1].map .attempt)).network.attempt 0 []).1 = .ok (some event) ∧
        event.creator = ⟨0⟩) ∧
      ∀ step < 7, ∃ event, ((start.course ((roundRobin Creator.triadSeat.roster step).map .attempt)).network.attempt
        (step % 3) []).1 = .ok (some event) := by
  have facts :
      let start := startEach Creator.triadSeat.roster .generationThreshold (fun _ => .default) fun _ => .absent
      let course := start.course ([0, 1, 2, 1].map .attempt)
      let turns := start.course ((roundRobin Creator.triadSeat.roster 7).map .attempt)
      (course.created.map Event.hash).Nodup ∧ (course.network.clock.plusMillis? 1).isSome = true ∧
        (∀ other ∈ Creator.triadSeat.roster.nodes, other ≠ ⟨0⟩ →
          ∃ event ∈ course.since ⟨0⟩, event.creator = other) ∧
        (Instant.epoch.plusMillis? 7).isSome = true ∧ (turns.created.map Event.hash).Nodup := by
    decide +kernel
  obtain ⟨distinct, timed, told, range, distinctTurns⟩ := facts
  have safe := nobody_blocks_once_all_others_have_spoken Creator.triadSeat.roster .generationThreshold
    (fun _ => .default) (fun _ => .absent) (by decide)
  exact ⟨safe.1 [0, 1, 2, 1] distinct 0 ⟨0⟩ (by decide) timed (Or.inr told), safe.2 7 range distinctTurns⟩

end Network

end Hashgraph
