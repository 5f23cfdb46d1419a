import Hashgraph.Proofs.Chance
import Hashgraph.Proofs.ChildlessTips

/-! Bursts: attempts in a row, with nothing learned in between. Each event takes a childless event away and a
start without parents leaves nothing to gain, so no burst makes more events than there are other members; and a
node that once makes none makes none again, whatever becomes of the clock, the supply and the random stream. -/

namespace Hashgraph

theorem Table.size_erase_lt {κ ν : Type} [DecidableEq κ] {table : Table κ ν} {key : κ} {value : ν}
    (found : table.find? key = some value) : (table.erase key).size < table.size := by
  apply List.length_filter_lt_length_iff_exists.mpr
  exact ⟨(key, value), (lookup_eq_some_iff table.unique).mp found, by simp⟩

namespace Creator

variable {σ : Type}

theorem Agrees.symm {before after : Creator} (same : Agrees before after) : Agrees after before where
  seat := same.seat.symm
  mode := same.mode.symm
  factor := same.factor.symm
  ancestry := same.ancestry.symm
  childless := same.childless.symm
  progress := same.progress.symm
  lastSelfEvent := same.lastSelfEvent.symm

theorem Agrees.eq_update {before after : Creator} (same : Agrees before after) :
    after = { before with random := after.random, counters := after.counters } := by
  obtain ⟨seat, mode, factor, ancestry, childless, progress, lastSelfEvent⟩ := same
  cases before
  cases after
  simp only at seat mode factor ancestry childless progress lastSelfEvent
  subst seat mode factor ancestry childless progress lastSelfEvent
  rfl

theorem Agrees.mayBuildOn {before after : Creator} (same : Agrees before after) {other : Option Event}
    (may : MayBuildOn after other) : MayBuildOn before other := by
  rw [same.eq_update] at may
  cases may with
  | alone single => exact .alone single
  | candidate several listed gains => exact .candidate several listed gains
  | first several allowed idle => exact .first several allowed idle

theorem MayBuildOn.of_some {creator : Creator} (several : creator.seat.roster.size ≠ 1) {parent : Event}
    (may : MayBuildOn creator (some parent)) :
    parent ∈ creator.childless.events ∧ (creator.gain parent).isNonZero = true := by
  generalize shape : some parent = other at may
  cases may with
  | alone single => exact absurd single several
  | candidate _ listed gains =>
      cases shape
      exact ⟨listed, gains⟩
  | first _ _ _ => cases shape

theorem MayBuildOn.of_none {creator : Creator} (several : creator.seat.roster.size ≠ 1)
    (may : MayBuildOn creator none) :
    creator.mayStart = true ∧ ∀ event ∈ creator.childless.events, (creator.gain event).isNonZero = false := by
  generalize shape : none = other at may
  cases may with
  | alone single => exact absurd single several
  | candidate _ _ _ => cases shape
  | first _ starts idle => exact ⟨starts, idle⟩

def Refuses (creator : Creator) : Prop :=
  ∀ other, MayBuildOn creator other → creator.nextAncient? other = some true

theorem Refuses.agrees {before after : Creator} (refuses : Refuses before) (same : Agrees before after) :
    Refuses after := by
  intro other may
  rw [same.nextAncient?]
  exact refuses other (same.mayBuildOn may)

theorem build_eq_none_iff (creator : Creator) (surroundings : Surroundings σ) (now : Instant) (supply : σ)
    (other : Option Event) :
    (creator.build surroundings now supply other).outcome = .ok none ↔
      creator.nextAncient? other = some true := by
  cases creator.build_built surroundings now supply other with
  | exhausted missing failed _ _ => simp [failed, nextAncient?, missing]
  | ancient old refused _ _ => exact iff_of_true refused old
  | failed fault young failed _ _ => simp [failed, young]
  | made event _ made created _ _ => simp [created, made.fresh]

theorem attempt_eq_none_cases (creator : Creator) (surroundings : Surroundings σ) (now : Instant) (supply : σ) :
    (∃ other, MayBuildOn creator other ∧
        ((creator.attempt surroundings now supply).outcome = .ok none ↔ creator.nextAncient? other = some true)) ∨
      ((∀ other, ¬MayBuildOn creator other) ∧ (creator.attempt surroundings now supply).outcome = .ok none) := by
  rcases creator.attempt_builds surroundings now supply with
    ⟨drawn, other, unchanged, may, outcome, _⟩ | ⟨nobody, outcome, _⟩
  · refine Or.inl ⟨other, may, ?_⟩
    rw [outcome, build_eq_none_iff, unchanged.nextAncient?]
  · exact Or.inr ⟨nobody, outcome⟩

theorem Refuses.outcome {creator : Creator} (refuses : Refuses creator) (surroundings : Surroundings σ)
    (now : Instant) (supply : σ) : (creator.attempt surroundings now supply).outcome = .ok none := by
  rcases creator.attempt_eq_none_cases surroundings now supply with ⟨other, may, nothing⟩ | ⟨_, nothing⟩
  · exact nothing.mpr (refuses other may)
  · exact nothing

/-- What a burst relies on, and what all its attempts keep. -/
structure Ready (creator : Creator) : Prop where
  several : creator.seat.roster.size ≠ 1
  stocked : Stocked creator
  fresh : creator.ancestry.Fresh
  sameMode : creator.window.mode = creator.mode
  low : ∀ event ∈ creator.childless.events, event.generation < highestGeneration

theorem Ready.agrees {before after : Creator} (ready : Ready before) (same : Agrees before after) :
    Ready after where
  several := by
    rw [same.seat]
    exact ready.several
  stocked := ready.stocked.agrees same
  fresh := same.ancestry ▸ ready.fresh
  sameMode := by
    rw [window, same.ancestry, same.mode]
    exact ready.sameMode
  low := by
    rw [same.childless]
    exact ready.low

theorem Ready.extended {before after : Creator} {event : Event} (ready : Ready before)
    (extended : Extended before event after) : Ready after := by
  have arrived : after.ancestry =
      (before.ancestry.receive before.seat.roster (.own event.descriptor event.parents)).2 := extended.ancestry
  constructor
  case several =>
    rw [extended.seat]
    exact ready.several
  case stocked => exact ready.stocked.own extended.seat extended.ancestry extended.childless
  case fresh =>
    rw [arrived]
    exact ready.fresh.receive _ _
  case sameMode =>
    rw [window, arrived, Ancestry.window_receive, extended.mode]
    exact ready.sameMode
  case low =>
    intro other listed
    exact ready.low other ((extended.mem_childless_iff ready.stocked other).mp listed).1

theorem nextGeneration_of_top {creator : Creator} {last : Event} (held : creator.lastSelfEvent = some last)
    (top : last.generation = highestGeneration) (other : Option Event) : creator.nextGeneration? other = none :=
  nextGeneration?_eq_none_iff.mpr ⟨last.descriptor, by simp [lastDescriptor, held], top⟩

/-- The events that can be made are all ancient or all young. Behind an own event of the highest generation none
can be made. -/
theorem Ready.ages_agree {creator : Creator} (ready : Ready creator) {a b : Option Event}
    (mayA : MayBuildOn creator a) (mayB : MayBuildOn creator b) :
    creator.nextAncient? a = creator.nextAncient? b := by
  by_cases below : ∀ event, creator.lastSelfEvent = some event → event.generation < highestGeneration
  · exact nextAncients_agree ready.several ready.stocked ready.fresh ready.sameMode ⟨ready.low, below⟩ mayA mayB
  · push Not at below
    obtain ⟨last, held, high⟩ := below
    have top : last.generation = highestGeneration := by
      by_contra other
      exact high (generation_lt_highest_iff.mpr other)
    rw [nextAncient?, nextAncient?, nextGeneration_of_top held top, nextGeneration_of_top held top]

theorem Ready.refuses_of_none {creator : Creator} (ready : Ready creator) {surroundings : Surroundings σ}
    {now : Instant} {supply : σ} (nothing : (creator.attempt surroundings now supply).outcome = .ok none) :
    Refuses creator := by
  intro other may
  rcases creator.attempt_eq_none_cases surroundings now supply with ⟨chosen, mayToo, ancient⟩ | ⟨nobody, _⟩
  · rw [ready.ages_agree may mayToo]
    exact ancient.mp nothing
  · exact absurd may (nobody other)

/-! ### Bursts -/

structure Call (σ : Type) where
  stir : RandomStream → RandomStream
  surroundings : Surroundings σ
  now : Instant
  supply : σ

def stirred (creator : Creator) (call : Call σ) : Creator :=
  { creator with random := call.stir creator.random }

def answer (creator : Creator) (call : Call σ) : Attempt σ :=
  (creator.stirred call).attempt call.surroundings call.now call.supply

def burst (creator : Creator) : List (Call σ) → List (Except CreationError (Option Event))
  | [] => []
  | call :: rest => (creator.answer call).outcome :: (creator.answer call).creator.burst rest

def isCreation : Except CreationError (Option Event) → Bool
  | .ok (some _) => true
  | _ => false

theorem stirred_agrees (creator : Creator) (call : Call σ) : Agrees creator (creator.stirred call) :=
  ⟨rfl, rfl, rfl, rfl, rfl, rfl, rfl⟩

theorem answer_cases (creator : Creator) (call : Call σ) :
    (∃ other event, (creator.answer call).outcome = .ok (some event) ∧ MayBuildOn creator other ∧
        Made creator call.surroundings call.now other event ∧
        Extended creator event (creator.answer call).creator) ∨
      (isCreation (creator.answer call).outcome = false ∧ Agrees creator (creator.answer call).creator) := by
  have stirs := creator.stirred_agrees call
  rcases (creator.stirred call).attempt_cases call.surroundings call.now call.supply with
    ⟨other, event, created, may, made, extended⟩ | ⟨refused, agrees⟩
  · exact Or.inl ⟨other, event, created, stirs.mayBuildOn may, made.of_agrees stirs, extended.of_agrees stirs⟩
  · refine Or.inr ⟨?_, stirs.trans agrees⟩
    change isCreation ((creator.stirred call).attempt call.surroundings call.now call.supply).outcome = false
    unfold isCreation
    split
    · rename_i event created
      exact absurd created (refused event)
    · rfl

theorem burst_of_refuses {creator : Creator} (refuses : Refuses creator) (calls : List (Call σ)) :
    ∀ outcome ∈ creator.burst calls, outcome = .ok none := by
  induction calls generalizing creator with
  | nil => simp [burst]
  | cons call rest ih =>
      have nothing : (creator.answer call).outcome = .ok none :=
        (refuses.agrees (creator.stirred_agrees call)).outcome _ _ _
      have agrees : Agrees creator (creator.answer call).creator := by
        rcases creator.answer_cases call with ⟨_, _, created, _⟩ | ⟨_, agrees⟩
        · cases nothing.symm.trans created
        · exact agrees
      intro outcome listed
      rcases List.mem_cons.mp listed with same | later
      · exact same.trans nothing
      · exact ih (refuses.agrees agrees) outcome later

theorem burst_stays_silent {creator : Creator} (ready : Ready creator) (calls : List (Call σ)) :
    (creator.burst calls).Pairwise fun earlier later => earlier = .ok none → later = .ok none := by
  induction calls generalizing creator with
  | nil => exact List.Pairwise.nil
  | cons call rest ih =>
      have readyAfter : Ready (creator.answer call).creator := by
        rcases creator.answer_cases call with ⟨_, _, _, _, _, extended⟩ | ⟨_, agrees⟩
        · exact ready.extended extended
        · exact ready.agrees agrees
      refine List.pairwise_cons.mpr ⟨?_, ih readyAfter⟩
      intro later listed nothing
      have refuses : Refuses creator :=
        ((ready.agrees (creator.stirred_agrees call)).refuses_of_none nothing).agrees
          (creator.stirred_agrees call).symm
      exact burst_of_refuses refuses (call :: rest) later (List.mem_cons_of_mem _ listed)

theorem countP_burst_of_idle {creator : Creator} (idle : ∀ other, ¬MayBuildOn creator other)
    (calls : List (Call σ)) : (creator.burst calls).countP isCreation = 0 := by
  induction calls generalizing creator with
  | nil => rfl
  | cons call rest ih =>
      rcases creator.answer_cases call with ⟨other, _, _, may, _⟩ | ⟨refused, agrees⟩
      · exact absurd may (idle other)
      · have later := ih fun other may => idle other (agrees.mayBuildOn may)
        simp [burst, refused, later]

theorem Extended.size_childless_lt {before after : Creator} {surroundings : Surroundings σ} {now : Instant}
    {event parent : Event} (extended : Extended before event after)
    (made : Made before surroundings now (some parent) event) (stocked : Stocked before)
    (listed : parent ∈ before.childless.events) : after.childless.size < before.childless.size := by
  rw [extended.childless, made.otherParents]
  exact Table.size_erase_lt (stocked.mem_events_iff.mp listed)

theorem countP_burst_le_size {creator : Creator} (ready : Ready creator)
    (started : creator.lastSelfEvent ≠ none) (calls : List (Call σ)) :
    (creator.burst calls).countP isCreation ≤ creator.childless.size := by
  induction calls generalizing creator with
  | nil => exact Nat.zero_le _
  | cons call rest ih =>
      rcases creator.answer_cases call with ⟨other, event, created, may, made, extended⟩ | ⟨refused, agrees⟩
      · have later := ih (ready.extended extended) (by simp [extended.lastSelfEvent])
        cases other with
        | some parent =>
            have fewer := extended.size_childless_lt made ready.stocked (may.of_some ready.several).1
            rw [burst, created, List.countP_cons_of_pos rfl]
            omega
        | none =>
            have starts := (may.of_none ready.several).1
            simp [mayStart, started] at starts
      · have later := ih (ready.agrees agrees) (agrees.lastSelfEvent ▸ started)
        rw [agrees.childless] at later
        simpa [burst, refused] using later

end Creator

namespace Progress

theorem no_gain_of_unmoved {progress : Progress} {seat : Seat} {ancestry : Ancestry}
    {parents : List EventDescriptor}
    (unmoved : ∀ node, Tipset.advances seat.roster seat.node progress.snapshot
      (ancestry.mergedParents seat.roster parents) node = false) :
    (progress.theoretical seat ancestry parents).isNonZero = false := by
  simp only [theoretical]
  split
  · rfl
  · rw [Tipset.advancement_eq_zero_of_none unmoved, Advancement.isNonZero_eq_false_iff]
    simp only [Advancement.minus, toNat_saturatingSub, Advancement.zero, UInt64.toNat_zero, Nat.zero_sub,
      and_self]

theorem tip_of_no_gain {seat : Seat} {ancestry : Ancestry} {candidate : EventDescriptor} {tipset : Tipset}
    (known : ancestry.tipset? candidate = some tipset)
    (silent : ((start seat.roster).theoretical seat ancestry [candidate]).isNonZero = false) {node : NodeId}
    (member : seat.roster.contains node = true) (different : node ≠ seat.node) :
    tipset.tip seat.roster node = none := by
  have inherited := Ancestry.height_tip_le_mergedParents seat.roster (List.mem_singleton_self _) known node
  have still : Tipset.advances seat.roster seat.node (start seat.roster).snapshot (start seat.roster).snapshot
      node = false := by
    rw [← Bool.not_eq_true, Tipset.advances_iff]
    omega
  rw [← Bool.not_eq_true] at still
  have unmoved : ¬Tipset.advances seat.roster seat.node (start seat.roster).snapshot
      (ancestry.mergedParents seat.roster [candidate]) node = true := by
    intro moved
    apply still
    apply moved_of_no_gain (by simp) (Tipset.advancement_self _ _ _).symm _ silent member moved
    intro other impossible
    rw [Tipset.advances_iff] at impossible
    omega
  rw [Tipset.advances_iff] at unmoved
  have floor : (start seat.roster).snapshot.tip seat.roster node = none := Tipset.tip_empty _ _
  rw [floor, Tipset.height_none] at unmoved
  apply Tipset.height_injective
  rw [Tipset.height_none]
  have bound : ¬0 < Tipset.height ((ancestry.mergedParents seat.roster [candidate]).tip seat.roster node) :=
    fun above => unmoved ⟨different, above⟩
  omega

end Progress

namespace Creator

theorem bare_after_start {before after : Creator} {surroundings : Surroundings σ} {now : Instant} {event : Event}
    (fresh : before.ancestry.Fresh) (untouched : before.progress = .start before.seat.roster)
    (nothing : before.lastSelfEvent = none) (made : Made before surroundings now none event)
    (extended : Extended before event after) :
    ∃ own, after.ancestry.tipset? event.descriptor = some own ∧ (∀ node, own.tip before.seat.roster node = none) ∧
      ∀ node, after.progress.snapshot.tip before.seat.roster node = none := by
  have orphan : event.parents = [] := by simp [made.parents, lastDescriptor, nothing]
  obtain ⟨step, recorded, progress⟩ := extended.recorded
  have known := extended.tracked fresh
  have bare : ∀ node, (Creation.tipset ⟨before, event⟩).tip before.seat.roster node = none := by
    intro node
    rw [Creation.tipset, Ancestry.tip_addSelfEvent, orphan]
    simp [Ancestry.mergedParents, Tipset.tip_mergeAll]
  refine ⟨_, known, bare, ?_⟩
  intro node
  rw [progress]
  rcases Progress.record?_snapshot recorded known with same | same
  · rw [same, bare]
  · rw [same, untouched]
    exact Tipset.tip_empty _ _

theorem no_gain_after_start {before after : Creator} {surroundings : Surroundings σ} {now : Instant} {event : Event}
    (ready : Ready before) (untouched : before.progress = .start before.seat.roster)
    (nothing : before.lastSelfEvent = none) (made : Made before surroundings now none event)
    (extended : Extended before event after)
    (idle : ∀ candidate ∈ before.childless.events, (before.gain candidate).isNonZero = false) {candidate : Event}
    (listed : candidate ∈ after.childless.events) : (after.gain candidate).isNonZero = false := by
  have member := ((extended.mem_childless_iff ready.stocked candidate).mp listed).1
  have suitable := ready.stocked.suitable member
  have arrived : after.ancestry = (before.ancestry.receive before.seat.roster
      (.own event.descriptor event.parents)).2 := extended.ancestry
  have named : after.lastDescriptor = some event.descriptor := by
    rw [lastDescriptor, extended.lastSelfEvent]
    rfl
  obtain ⟨own, knownOwn, bareOwn, bareSnapshot⟩ := bare_after_start ready.fresh untouched nothing made extended
  rw [gain, theoretical, named, extended.seat]
  apply Progress.no_gain_of_unmoved
  intro node
  by_contra moved
  rw [Bool.not_eq_false, Tipset.advances_iff, bareSnapshot] at moved
  simp only [Option.toList_some] at moved
  cases tip : (after.ancestry.mergedParents before.seat.roster
      [candidate.descriptor, event.descriptor]).tip before.seat.roster node with
  | none => simp [tip] at moved
  | some nGen =>
      obtain ⟨parent, among, tipset, known, high⟩ := Ancestry.tip_mergedParents_source tip
      simp only [List.mem_cons, List.not_mem_nil, or_false] at among
      rcases among with rfl | rfl
      · rw [arrived, Ancestry.tipset?_receive, if_neg] at known
        · have silent := idle candidate member
          rw [gain, theoretical, lastDescriptor, nothing, untouched] at silent
          rw [Progress.tip_of_no_gain known silent (Tipset.contains_of_tip high) moved.1] at high
          simp at high
        · rintro ⟨same, _⟩
          apply suitable.other
          rw [← made.creator]
          exact congrArg EventDescriptor.creator same.symm
      · rw [knownOwn] at known
        cases known
        simp [bareOwn] at high

theorem countP_burst_le {creator : Creator} (ready : Ready creator)
    (untouched : creator.lastSelfEvent = none → creator.progress = .start creator.seat.roster)
    (calls : List (Call σ)) : (creator.burst calls).countP isCreation ≤ max creator.childless.size 1 := by
  by_cases started : creator.lastSelfEvent = none
  · induction calls generalizing creator with
    | nil => exact Nat.zero_le _
    | cons call rest ih =>
        rcases creator.answer_cases call with ⟨other, event, created, may, made, extended⟩ | ⟨refused, agrees⟩
        · rw [burst, created, List.countP_cons_of_pos rfl]
          have later := countP_burst_le_size (ready.extended extended) (by simp [extended.lastSelfEvent]) rest
          cases other with
          | some parent =>
              -- The parent is used up by the first event as by all later ones.
              have fewer := extended.size_childless_lt made ready.stocked (may.of_some ready.several).1
              omega
          | none =>
              -- Behind a start nothing is a gain, so this is the only event.
              have idle := (may.of_none ready.several).2
              have nobody : ∀ other, ¬MayBuildOn (creator.answer call).creator other := by
                intro other mayToo
                cases mayToo with
                | alone single => exact (ready.extended extended).several single
                | candidate _ listed gains =>
                    rw [no_gain_after_start ready (untouched started) started made extended idle listed] at gains
                    exact Bool.noConfusion gains
                | first _ allowed _ => simp [mayStart, extended.lastSelfEvent] at allowed
              rw [countP_burst_of_idle nobody]
              omega
        · have later := ih (ready.agrees agrees)
            (by
              rw [agrees.progress, agrees.seat]
              exact fun _ => untouched started)
            (agrees.lastSelfEvent.trans started)
          rw [agrees.childless] at later
          rw [burst, List.countP_cons_of_neg (by simp [refused])]
          exact later
  · have bound := countP_burst_le_size ready started calls
    omega

/-- From every state that a run with windows of the creator's mode reaches, over a roster of at least two members
and with childless events below the highest generation: attempts in a row make at most as many events as there
are other members, and once one makes none, all later ones make none. Before every attempt the random stream may
become anything. -/
theorem bursts_are_bounded (seat : Seat) (mode : AncientMode) (settings : CreationSettings)
    (actions : List (Action σ)) (fits : ∀ window, Action.install window ∈ actions → window.mode = mode)
    (several : 2 ≤ seat.roster.size)
    (low : ∀ event ∈ ((Creator.start seat mode settings).history actions).creator.childless.events,
      event.generation < highestGeneration)
    (calls : List (Call σ)) :
    let outcomes := ((Creator.start seat mode settings).history actions).creator.burst calls
    outcomes.countP isCreation ≤ seat.roster.size - 1 ∧
      outcomes.Pairwise fun earlier later => earlier = .ok none → later = .ok none := by
  intro outcomes
  have chained := chained_history (Creator.start seat mode settings) actions
  have measured := measured_history seat mode settings actions
  have inMode := inMode_history seat mode settings actions fits
  have stocked := stocked_history seat mode settings actions
  have sole := sole_history seat mode settings actions
  have members : ((Creator.start seat mode settings).history actions).creator.seat.roster.size =
      seat.roster.size := by rw [measured.seated]
  have ready : Ready ((Creator.start seat mode settings).history actions).creator :=
    ⟨by omega, stocked, measured.fresh, inMode.window.trans inMode.own.symm, low⟩
  refine ⟨?_, burst_stays_silent ready calls⟩
  have untouched : ((Creator.start seat mode settings).history actions).creator.lastSelfEvent = none →
      ((Creator.start seat mode settings).history actions).creator.progress =
        .start ((Creator.start seat mode settings).history actions).creator.seat.roster := by
    intro nothing
    rw [measured.seated]
    apply measured.untouched
    -- Had the node made an event since the last clearing, the latest of them would be its last event.
    cases whole : ((Creator.start seat mode settings).history actions).creations with
    | nil => rfl
    | cons latest older =>
        have held := chained.held latest (by simp [whole])
        rw [nothing] at held
        simp at held
  have bound : outcomes.countP isCreation ≤ _ := countP_burst_le ready untouched calls
  have fewer := size_childless_lt stocked sole
  omega

def meetingRun : List (Action Unit) :=
  [.register (Ancestry.sampleEvent 1 [] 1 0), .register (Ancestry.sampleEvent 2 [] 1 0),
    .register (Ancestry.sampleEvent 3 [] 2 0)]

def meetingCalls : List (Call Unit) :=
  [⟨fun _ => .ofSeed 7, silent, ⟨5, by decide, by decide⟩, ()⟩, ⟨id, silent, .epoch, ()⟩, ⟨id, silent, .epoch, ()⟩,
    ⟨id, silent, .epoch, ()⟩, ⟨fun _ => .ofSeed 8, silent, .epoch, ()⟩]

/-- Three other members bring three events, and then nothing more. -/
theorem meetingRun_bursts_thrice :
    let outcomes :=
      ((Creator.start quartetSeat .birthRoundThreshold .default).history meetingRun).creator.burst meetingCalls
    outcomes.countP isCreation = 3 ∧ outcomes.countP isCreation ≤ quartetSeat.roster.size - 1 ∧
      outcomes.Pairwise fun earlier later => earlier = .ok none → later = .ok none := by
  have facts :
      let creator := ((Creator.start quartetSeat .birthRoundThreshold .default).history meetingRun).creator
      (∀ event ∈ creator.childless.events, event.generation < highestGeneration) ∧
        (creator.burst meetingCalls).countP isCreation = 3 := by
    decide +kernel
  obtain ⟨low, thrice⟩ := facts
  exact ⟨thrice, bursts_are_bounded quartetSeat .birthRoundThreshold .default meetingRun (by simp [meetingRun])
    (by decide) low meetingCalls⟩

end Creator

end Hashgraph
