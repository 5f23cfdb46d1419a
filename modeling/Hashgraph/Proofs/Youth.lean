import Hashgraph.Proofs.Chance
import Hashgraph.Proofs.Numbering

/-! New events in a network are never ancient. The threshold stays at or below the birth round of new events, or
at or below the highest generation; a childless event has not become ancient, so its children have not either,
and the highest generation of a single member is that of its last event. -/

namespace Hashgraph

namespace Consensus

structure Advanced (rounds : Nat) (consensus : Consensus) : Prop where
  orderly : consensus.Orderly
  latest : consensus.window.latestConsensusRound.toNat = rounds
  birthRound : consensus.window.newEventBirthRound.toNat = rounds + 1
  opening : rounds = 0 → consensus.window = .genesis consensus.window.mode
  fits : consensus.window.mode = .generationThreshold →
    roundsNonAncient.toNat * consensus.rosterSize.toNat < UInt64.size

theorem Advanced.start (mode : AncientMode) (rosterSize : UInt64)
    (fits : mode = .generationThreshold → roundsNonAncient.toNat * rosterSize.toNat < UInt64.size) :
    Advanced 0 (start mode rosterSize) where
  orderly := .start mode rosterSize
  latest := rfl
  birthRound := rfl
  opening := fun _ => rfl
  fits := fits

theorem Advanced.enter {rounds : Nat} {consensus : Consensus} (advanced : Advanced rounds consensus)
    (event : Event) (nGen : Generation) : Advanced rounds (consensus.enter event nGen) where
  orderly := advanced.orderly.enter event nGen
  latest := advanced.latest
  birthRound := advanced.birthRound
  opening := advanced.opening
  fits := advanced.fits

theorem Advanced.exists_nextThreshold {rounds : Nat} {consensus : Consensus} (advanced : Advanced rounds consensus)
    (latest : Round) : ∃ threshold, consensus.nextThreshold? latest = some threshold := by
  unfold nextThreshold? threshold?
  cases mode : consensus.window.mode with
  | birthRoundThreshold => exact ⟨_, rfl⟩
  | generationThreshold =>
      obtain ⟨product, multiplied⟩ := exists_checkedMul (advanced.fits mode)
      simp [multiplied]

theorem Advanced.moved {rounds : Nat} {before after : Consensus} (advanced : Advanced rounds before)
    (moved : Moved before after) : Advanced (rounds + 1) after where
  orderly := moved.orderly
  latest := by rw [moved.latest, advanced.latest]
  birthRound := by rw [moved.birthRound, moved.latest, advanced.latest]
  opening := fun none_ => absurd none_ (Nat.succ_ne_zero rounds)
  fits := by
    rw [moved.mode, moved.rosterSize]
    exact advanced.fits

theorem Advanced.advanceRound {rounds : Nat} {consensus : Consensus} (advanced : Advanced rounds consensus)
    (range : rounds + 2 < UInt64.size) :
    ∃ after, consensus.advanceRound = .ok after ∧ Advanced (rounds + 1) after := by
  have now := advanced.latest
  obtain ⟨latest, next, reached⟩ := exists_checkedAdd (a := consensus.window.latestConsensusRound) (b := 1)
    (by rw [now, UInt64.toNat_one]; omega)
  rw [now, UInt64.toNat_one] at reached
  obtain ⟨birth, later, born⟩ := exists_checkedAdd (a := latest) (b := 1)
    (by rw [reached, UInt64.toNat_one]; omega)
  obtain ⟨threshold, found⟩ := advanced.exists_nextThreshold latest
  have started : ¬birth < firstRound := by
    rw [UInt64.lt_iff_toNat_lt, born, firstRound, UInt64.toNat_one]
    omega
  have high : ¬threshold < consensus.window.mode.firstIndicator := by
    rw [UInt64.lt_iff_toNat_lt, toNat_nextThreshold found]
    exact Nat.not_lt.mpr (Nat.le_max_right _ _)
  have result : ∃ after, consensus.advanceRound = .ok after := by
    simp [Consensus.advanceRound, nextWindow, next, found, later, EventWindow.ofParts, started, high, Except.map,
      Except.mapError]
  obtain ⟨after, done⟩ := result
  exact ⟨after, done, advanced.moved (moved_of_advanceRound done)⟩

theorem Orderly.threshold_le_maxGeneration {consensus : Consensus} (orderly : Orderly consensus)
    (mode : consensus.window.mode = .generationThreshold) :
    consensus.window.ancientThreshold ≤ consensus.maxGeneration := by
  rw [Orderly, nextThreshold, mode] at orderly
  simp only [AncientMode.firstIndicator, firstGeneration, UInt64.reduceToNat] at orderly
  rw [UInt64.le_iff_toNat_le]
  omega

theorem Advanced.threshold_le_birthRound {rounds : Nat} {consensus : Consensus}
    (advanced : Advanced rounds consensus) (mode : consensus.window.mode = .birthRoundThreshold) :
    consensus.window.ancientThreshold ≤ consensus.window.newEventBirthRound := by
  have threshold := advanced.orderly
  rw [Orderly, nextThreshold, mode, advanced.latest] at threshold
  simp only [AncientMode.firstIndicator, firstRound, UInt64.reduceToNat] at threshold
  rw [UInt64.le_iff_toNat_le, advanced.birthRound]
  omega

end Consensus

theorem ChildlessEvents.mem_events_add {tracked : ChildlessEvents} {event other : Event}
    (listed : other ∈ (tracked.add event).events) : other ∈ tracked.events ∨ other = event := by
  obtain ⟨descriptor, found⟩ := Table.mem_values_iff.mp listed
  rcases find?_add found with before | ⟨_, same⟩
  · exact Or.inl (Table.mem_values_iff.mpr ⟨descriptor, before⟩)
  · exact Or.inr same

theorem ChildlessEvents.mem_events_prune {tracked : ChildlessEvents} {window : EventWindow} {event : Event}
    (listed : event ∈ (tracked.prune window).events) : event ∈ tracked.events := by
  obtain ⟨descriptor, found⟩ := Table.mem_values_iff.mp listed
  exact Table.mem_values_iff.mpr ⟨descriptor, (find?_prune found).2⟩

namespace Creator

structure Under (highest : Generation) (creator : Creator) : Prop where
  candidates : ∀ event ∈ creator.childless.events, event.generation ≤ highest
  last : ∀ event, creator.lastSelfEvent = some event → event.generation ≤ highest

theorem Under.mono {lower higher : Generation} {creator : Creator} (under : Under lower creator)
    (le : lower ≤ higher) : Under higher creator where
  candidates := fun event listed => UInt64.le_trans (under.candidates event listed) le
  last := fun event held => UInt64.le_trans (under.last event held) le

theorem Under.agrees {highest : Generation} {before after : Creator} (under : Under highest before)
    (same : Agrees before after) : Under highest after where
  candidates := same.childless ▸ under.candidates
  last := same.lastSelfEvent ▸ under.last

theorem Under.setWindow {highest : Generation} {creator : Creator} (under : Under highest creator)
    (window : EventWindow) : Under highest (creator.setWindow window) where
  candidates := fun event listed => under.candidates event (ChildlessEvents.mem_events_prune listed)
  last := under.last

theorem Under.extended {highest : Generation} {before after : Creator} {event : Event}
    (under : Under highest before) (stocked : Stocked before) (extended : Extended before event after)
    (reached : event.generation ≤ highest) : Under highest after where
  candidates := by
    intro other listed
    exact under.candidates other ((extended.mem_childless_iff stocked other).mp listed).1
  last := by
    intro other held
    rw [extended.lastSelfEvent] at held
    cases held
    exact reached

theorem Under.lowGenerations {highest : Generation} {creator : Creator} (under : Under highest creator)
    (low : highest < highestGeneration) : LowGenerations creator where
  candidates := fun event listed => UInt64.lt_of_le_of_lt (under.candidates event listed) low
  last := fun event held => UInt64.lt_of_le_of_lt (under.last event held) low

theorem Under.nextGeneration_le {highest : Generation} {creator : Creator} (under : Under highest creator)
    {other : Option Event} (may : MayBuildOn creator other) {generation : Generation}
    (graded : creator.nextGeneration? other = some generation) : generation.toNat ≤ highest.toNat + 1 := by
  apply Hashgraph.nextGeneration_le graded
  intro parent named
  have reached : parent.generation ≤ highest :=
    may.parents (motive := fun parent => parent.generation ≤ highest) under.candidates under.last parent named
  exact Nat.lt_succ_of_le (UInt64.le_iff_toNat_le.mp reached)

theorem Lived.fresh {mode : AncientMode} {creator : Creator} (lived : Lived mode creator) :
    creator.ancestry.Fresh := by
  obtain ⟨settings, actions, _, equal⟩ := lived
  have measured := measured_history creator.seat mode settings actions
  have fresh := measured.fresh
  rwa [← equal] at fresh

end Creator

/-! ### Networks -/

namespace Network

open Creator (MayBuildOn Under)

structure Regular (roster : Roster) (mode : AncientMode) (attempts rounds : Nat) (network : Network) : Prop where
  sound : Sound roster mode network
  advanced : network.consensus.Advanced rounds
  clock : network.clock.nanos = attempts * 1000000
  onTime : ∀ creator ∈ network.creators, ∀ last, creator.lastSelfEvent = some last →
    last.finish ≤ network.clock.nanos + 1
  generations : network.consensus.maxGeneration.toNat ≤ attempts
  under : ∀ creator ∈ network.creators, Under network.consensus.maxGeneration creator
  single : roster.size = 1 → ∀ creator ∈ network.creators,
    network.consensus.maxGeneration = (creator.lastSelfEvent.map Event.generation).getD firstGeneration

section Regular

variable {roster : Roster} {mode : AncientMode} {attempts rounds : Nat} {before after : Network}
  {maker next : Creator} {event : Event}

theorem Regular.startEach (roster : Roster) (mode : AncientMode) (settings : NodeId → CreationSettings)
    (signer : NodeId → Signer)
    (fits : mode = .generationThreshold → roundsNonAncient.toNat * roster.size < UInt64.size) :
    Regular roster mode 0 0 (startEach roster mode settings signer) := by
  have blank : ∀ creator ∈ (Network.startEach roster mode settings signer).creators,
      creator.childless = .empty ∧ creator.lastSelfEvent = none := by
    intro creator listed
    simp only [Network.startEach, creators, List.map_map, List.mem_map] at listed
    obtain ⟨seat, _, rfl⟩ := listed
    exact ⟨rfl, rfl⟩
  have counted : mode = .generationThreshold →
      roundsNonAncient.toNat * roster.size.toUInt64.toNat < UInt64.size := by
    intro generations
    have size : roster.size.toUInt64.toNat ≤ roster.size := by
      rw [Nat.toUInt64_eq, UInt64.toNat_ofNat']
      exact Nat.mod_le _ _
    exact Nat.lt_of_le_of_lt (Nat.mul_le_mul_left _ size) (fits generations)
  refine ⟨.startEach roster mode settings signer, .start mode _ counted, rfl, ?_, Nat.le_refl _, ?_, ?_⟩
  · intro creator listed last held
    rw [(blank creator listed).2] at held
    cases held
  · intro creator listed
    obtain ⟨childless, nothing⟩ := blank creator listed
    refine ⟨?_, ?_⟩
    · simp [childless, ChildlessEvents.empty, ChildlessEvents.events, Table.empty, Table.values]
    · simp [nothing]
  · intro _ creator listed
    rw [(blank creator listed).2]
    rfl

theorem Regular.low (regular : Regular roster mode attempts rounds before) :
    before.consensus.maxGeneration < highestGeneration := by
  -- Each attempt has taken a millisecond, and the calendar ends before there are so many.
  have clock := regular.clock
  have latest := before.clock.le_latest
  have reached := regular.generations
  rw [UInt64.lt_iff_toNat_lt, highestGeneration]
  simp only [UInt64.reduceToNat]
  omega

theorem Sound.exists_only (sound : Sound roster mode before) (alone : roster.size = 1) :
    ∃ only, before.creators = [only] := by
  have length := congrArg List.length sound.nodes
  rw [List.length_map, Roster.nodes, List.length_map] at length
  exact List.length_eq_one_iff.mp (length.trans alone)

theorem Spread.eq_next (spread : Spread before maker next event after) (sound : Sound roster mode before)
    (alone : roster.size = 1) : ∀ creator ∈ after.creators, creator = next := by
  intro creator listed
  rcases spread.learnt sound creator listed with same | ⟨old, among, other, _⟩
  · exact same
  · obtain ⟨only, whole⟩ := sound.exists_only alone
    have member := spread.listed
    rw [whole, List.mem_singleton] at among member
    rw [among, ← member] at other
    exact absurd spread.creator other

/-- A single member builds on its last event, which is the highest one. -/
theorem Regular.highest_le (regular : Regular roster mode attempts rounds before) (alone : roster.size = 1)
    {creator : Creator} (listed : creator ∈ before.creators) {other : Option Event} {generation : Generation}
    (graded : creator.nextGeneration? other = some generation) : before.consensus.maxGeneration ≤ generation := by
  rw [regular.single alone creator listed]
  cases held : creator.lastSelfEvent with
  | none => exact UInt64.le_iff_toNat_le.mpr (Nat.zero_le _)
  | some last =>
      have named : last.descriptor ∈ creator.lastDescriptor.toList := by simp [Creator.lastDescriptor, held]
      exact UInt64.le_of_lt (generation_lt_nextGeneration graded (List.mem_append_left _ named))

theorem Regular.graded (regular : Regular roster mode attempts rounds before) {creator : Creator}
    (listed : creator ∈ before.creators) {other : Option Event} (may : MayBuildOn creator other) :
    ∃ generation, creator.nextGeneration? other = some generation :=
  ((regular.under creator listed).lowGenerations regular.low).graded may

theorem Regular.young (regular : Regular roster mode attempts rounds before) {creator : Creator}
    (listed : creator ∈ before.creators) {other : Option Event} (may : MayBuildOn creator other) :
    creator.nextAncient? other = some false := by
  have lived := regular.sound.lived creator listed
  have window := regular.sound.windows creator listed
  have sameMode := lived.sameMode
  have consensusMode : before.consensus.window.mode = creator.mode := by rw [← window, sameMode]
  obtain ⟨generation, graded⟩ := regular.graded listed may
  rw [Creator.nextAncient_of_graded graded, Option.some_inj]
  cases ownMode : creator.mode with
  | birthRoundThreshold =>
      rw [ownMode] at consensusMode
      rw [Creator.nextIndicator, ownMode, Creator.isAncientIndicator_eq_false_iff, Creator.nextBirthRound, ownMode,
        window]
      exact regular.advanced.threshold_le_birthRound consensusMode
  | generationThreshold =>
      cases may with
      | alone single =>
          have alone : roster.size = 1 := regular.sound.roster_of_mem listed ▸ single
          rw [ownMode] at consensusMode
          rw [Creator.nextIndicator, ownMode, Creator.isAncientIndicator_eq_false_iff, window]
          exact UInt64.le_trans (regular.advanced.orderly.threshold_le_maxGeneration consensusMode)
            (regular.highest_le alone listed graded)
      | @candidate parent _ chosen _ =>
          exact Creator.nextIndicator_young sameMode ownMode ((lived.stocked.suitable chosen).young lived.fresh) graded
      | first _ starts _ =>
          apply Creator.young_at_start
          rw [Creator.mayStart, Bool.and_eq_true, EventWindow.isGenesis, decide_eq_true_eq, window] at starts
          have unturned : rounds = 0 := by
            rw [← regular.advanced.latest, starts.2]
            rfl
          rw [window, regular.advanced.opening unturned, consensusMode]

theorem Regular.generation_le (regular : Regular roster mode attempts rounds before)
    (spread : Spread before maker next event after) :
    event.generation.toNat ≤ before.consensus.maxGeneration.toNat + 1 := by
  obtain ⟨_, _, may, made, _, _⟩ := spread.built
  exact (regular.under maker spread.listed).nextGeneration_le may made.graded

theorem Regular.spread (regular : Regular roster mode attempts rounds before)
    (spread : Spread before maker next event after) :
    Regular roster mode (attempts + 1) rounds after := by
  have clock := nanos_of_plusMillis? spread.clock
  have past := regular.clock
  have generation := regular.generation_le spread
  have highest : after.consensus.maxGeneration = max before.consensus.maxGeneration event.generation := by
    rw [spread.consensus]
    rfl
  have raised : before.consensus.maxGeneration ≤ after.consensus.maxGeneration := by
    rw [highest, UInt64.le_iff_toNat_le, toNat_max]
    exact Nat.le_max_left _ _
  have reached : event.generation ≤ after.consensus.maxGeneration := by
    rw [highest, UInt64.le_iff_toNat_le, toNat_max]
    exact Nat.le_max_right _ _
  constructor
  case sound => exact regular.sound.spread spread
  case advanced =>
    rw [spread.consensus]
    exact regular.advanced.enter event _
  case clock => omega
  case onTime => exact spread.onTime regular.sound regular.onTime
  case generations =>
    have generations := regular.generations
    rw [highest, toNat_max]
    omega
  case under =>
    intro creator listed
    rcases spread.learnt regular.sound creator listed with rfl | ⟨old, among, _, rfl⟩
    · have stocked := (regular.sound.lived maker spread.listed).stocked
      exact ((regular.under maker spread.listed).mono raised).extended stocked spread.extended reached
    · have under := (regular.under old among).mono raised
      refine ⟨?_, under.last⟩
      intro other present
      rcases ChildlessEvents.mem_events_add present with before | rfl
      · exact under.candidates other before
      · exact reached
  case single =>
    intro alone creator listed
    obtain ⟨_, _, _, made, _, _⟩ := spread.built
    have below := regular.highest_le alone spread.listed made.graded
    rw [UInt64.le_iff_toNat_le] at below
    rw [spread.eq_next regular.sound alone creator listed, spread.extended.lastSelfEvent, Option.map_some,
      Option.getD_some, highest, ← UInt64.toNat_inj, toNat_max]
    omega

theorem Regular.idle (regular : Regular roster mode attempts rounds before) (idle : Idle before after)
    (clock : before.clock.plusMillis? 1 = some after.clock) : Regular roster mode (attempts + 1) rounds after := by
  have later := nanos_of_plusMillis? clock
  have past := regular.clock
  constructor
  case sound => exact regular.sound.idle idle
  case advanced =>
    rw [idle.consensus]
    exact regular.advanced
  case clock => omega
  case onTime => exact idle.onTime regular.onTime
  case generations =>
    rw [idle.consensus]
    exact Nat.le_succ_of_le regular.generations
  case under =>
    intro creator listed
    obtain ⟨old, among, agrees, _⟩ := idle.creators creator listed
    rw [idle.consensus]
    exact (regular.under old among).agrees agrees
  case single =>
    intro alone creator listed
    obtain ⟨old, among, agrees, _⟩ := idle.creators creator listed
    rw [idle.consensus, agrees.lastSelfEvent]
    exact regular.single alone old among

theorem Regular.turned (regular : Regular roster mode attempts rounds before) (turned : Turned before after)
    (advanced : after.consensus.Advanced (rounds + 1)) : Regular roster mode attempts (rounds + 1) after := by
  have generation := (Consensus.moved_of_advanceRound turned.consensus).maxGeneration
  constructor
  case sound => exact regular.sound.turned turned
  case advanced => exact advanced
  case clock =>
    rw [turned.clock]
    exact regular.clock
  case onTime =>
    intro creator listed last held
    rw [turned.creators, List.mem_map] at listed
    obtain ⟨old, among, rfl⟩ := listed
    rw [turned.clock]
    exact regular.onTime old among last held
  case generations =>
    rw [generation]
    exact regular.generations
  case under =>
    intro creator listed
    rw [turned.creators, List.mem_map] at listed
    obtain ⟨old, among, rfl⟩ := listed
    rw [generation]
    exact (regular.under old among).setWindow _
  case single =>
    intro alone creator listed
    rw [turned.creators, List.mem_map] at listed
    obtain ⟨old, among, rfl⟩ := listed
    rw [generation]
    exact regular.single alone old among

theorem Regular.outcome (regular : Regular roster mode attempts rounds before) {creator : Creator}
    (listed : creator ∈ before.creators) {clock : Instant} (moved : before.clock.plusMillis? 1 = some clock)
    (surroundings : Surroundings Unit) :
    (∃ event, (creator.attempt surroundings clock ()).outcome = .ok (some event)) ∨
      ((∀ other, ¬MayBuildOn creator other) ∧ (creator.attempt surroundings clock ()).outcome = .ok none) := by
  have prompt := Creator.nextTime?_of_onTime (regular.onTime creator listed) moved
  have sameMode := (regular.sound.lived creator listed).sameMode
  rcases Creator.attempt_outcome sameMode surroundings prompt () with ⟨other, may, outcome⟩ | nobody
  · left
    obtain ⟨generation, graded⟩ := regular.graded listed may
    have low := (regular.under creator listed).lowGenerations regular.low
    have age := (Creator.nextAncient_of_mayBuildOn sameMode low surroundings clock () may).symm.trans
      (regular.young listed may)
    rw [Option.some_inj] at age
    rw [Creator.outcomeOn_of_graded graded, age] at outcome
    exact ⟨_, outcome⟩
  · exact Or.inr nobody

theorem clock_attempt {network : Network} (ready : Ready network) {clock : Instant}
    (moved : network.clock.plusMillis? 1 = some clock) (position : Nat) : (network.attempt position []).2.clock = clock := by
  cases present : network.peers[position]? with
  | none => simp only [attempt, moved, present]
  | some peer =>
      rw [attempt_of_peer ready moved present]
      split <;> rfl

theorem Regular.attempt (regular : Regular roster mode attempts rounds before) (position : Nat)
    (timed : (before.clock.plusMillis? 1).isSome = true) :
    (∃ result, (before.attempt position []).1 = .ok result) ∧
      Regular roster mode (attempts + 1) rounds (before.attempt position []).2 := by
  obtain ⟨clock, moved⟩ := Option.isSome_iff_exists.mp timed
  rcases attempt_cases regular.sound.ready position with
    ⟨maker, next, event, _, created, spread⟩ | ⟨refused, idle⟩
  · exact ⟨⟨_, created⟩, regular.spread spread⟩
  · have reached := clock_attempt regular.sound.ready moved position
    refine ⟨?_, regular.idle idle (reached.symm ▸ moved)⟩
    cases present : before.peers[position]? with
    | none => exact ⟨none, by simp [Network.attempt, moved, present]⟩
    | some peer =>
        have listed : peer.creator ∈ before.creators := List.mem_map_of_mem (List.mem_of_getElem? present)
        rw [attempt_of_peer regular.sound.ready moved present]
        rcases regular.outcome listed moved (noTransactions peer.signer) with ⟨event, created⟩ | ⟨_, nothing⟩
        · rw [created]
          exact ⟨_, rfl⟩
        · rw [nothing]
          exact ⟨_, rfl⟩

theorem Regular.advanceRound (regular : Regular roster mode attempts rounds before)
    (range : rounds + 2 < UInt64.size) :
    ∃ after, before.advanceRound = .ok after ∧ Turned before after ∧
      Regular roster mode attempts (rounds + 1) after := by
  obtain ⟨consensus, advanced, behind⟩ := regular.advanced.advanceRound range
  have done : before.advanceRound = .ok { before with
      consensus := consensus
      peers := before.peers.map fun peer => { peer with creator := peer.creator.setWindow consensus.window } } := by
    simp [Network.advanceRound, advanced, Except.map]
  have turned := Turned.of_advanceRound done
  exact ⟨_, done, turned, regular.turned turned behind⟩

end Regular

end Network

end Hashgraph
