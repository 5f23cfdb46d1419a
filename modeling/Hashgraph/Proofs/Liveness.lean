import Hashgraph.Proofs.Accumulator

/-! A node among others is never stuck while every other member has something new. Had its last event already
moved them all, the weight of that would have been a supermajority and its tipset the snapshot. -/

namespace Hashgraph

theorem Roster.exists_other {roster : Roster} (several : 2 ≤ roster.size) (self : NodeId) :
    ∃ node, roster.contains node = true ∧ node ≠ self := by
  have distinct := roster.distinct
  unfold Roster.size at several
  cases whole : roster.entries with
  | nil => simp [whole] at several
  | cons first rest =>
      cases rest with
      | nil => simp [whole] at several
      | cons second rest =>
          simp only [whole, List.map_cons, List.nodup_cons, List.mem_cons, not_or] at distinct
          by_cases same : first.node = self
          · refine ⟨second.node, Roster.contains_iff.mpr ⟨second, by simp [whole], rfl⟩, ?_⟩
            exact fun equal => distinct.1.1 (same.trans equal.symm)
          · exact ⟨first.node, Roster.contains_iff.mpr ⟨first, by simp [whole], rfl⟩, same⟩

namespace Creator

variable {σ : Type}

structure InMode (mode : AncientMode) (creator : Creator) : Prop where
  own : creator.mode = mode
  window : creator.window.mode = mode

theorem InMode.agrees {mode : AncientMode} {before after : Creator} (inMode : InMode mode before)
    (same : Agrees before after) : InMode mode after where
  own := same.mode.trans inMode.own
  window := by
    rw [Creator.window, same.ancestry]
    exact inMode.window

theorem InMode.next {mode : AncientMode} {chronicle : Chronicle} (inMode : InMode mode chronicle.creator)
    (action : Action σ) (fits : ∀ window, action = .install window → window.mode = mode) :
    InMode mode (chronicle.next action).creator := by
  cases action with
  | register event =>
      have kept : ∀ arrival, (chronicle.creator.ancestry.receive chronicle.creator.seat.roster arrival).2.window.mode =
          mode := by
        intro arrival
        rw [Ancestry.window_receive]
        exact inMode.window
      rcases chronicle.creator.register_cases event with same | ⟨_, _, _, replaced⟩ | ⟨_, _, peer⟩
      · simpa only [Chronicle.next, same] using inMode
      · simp only [Chronicle.next, replaced]
        exact ⟨inMode.own, kept (.own event.descriptor event.parents)⟩
      · simp only [Chronicle.next, peer]
        exact ⟨inMode.own, kept (.peer event)⟩
  | install window => exact ⟨inMode.own, fits window rfl⟩
  | attempt surroundings now supply =>
      rcases chronicle.next_attempt_cases surroundings now supply with
        ⟨other, event, after, result, _, _, extended⟩ | ⟨after, result, agrees⟩
      · rw [result]
        refine ⟨extended.mode.trans inMode.own, ?_⟩
        have arrived : after.ancestry = (chronicle.creator.ancestry.receive chronicle.creator.seat.roster
          (.own event.descriptor event.parents)).2 := extended.ancestry
        rw [Creator.window, arrived, Ancestry.window_receive]
        exact inMode.window
      · rw [result]
        exact inMode.agrees agrees
  | clear => exact ⟨inMode.own, inMode.own⟩

theorem inMode_history (seat : Seat) (mode : AncientMode) (settings : CreationSettings)
    (actions : List (Action σ)) (fits : ∀ window, Action.install window ∈ actions → window.mode = mode) :
    InMode mode ((Creator.start seat mode settings).history actions).creator := by
  apply history_induction _ actions (motive := fun chronicle => InMode mode chronicle.creator)
  · exact ⟨rfl, rfl⟩
  · intro chronicle inMode action member
    exact inMode.next action fun window same => fits window (same ▸ member)

/-- What the accumulator measures, be it a last event of the node's own making or nothing at all: it is no
supermajority, and every candidate is merged with it. -/
theorem Measured.baseline {seat : Seat} {chronicle : Chronicle} (measured : Measured seat chronicle)
    (chained : Chained chronicle)
    (tracked : ∀ last, chronicle.creator.lastSelfEvent = some last →
      (chronicle.creator.ancestry.tipset? last.descriptor).isSome = true) :
    ∃ inner, chronicle.creator.progress.previous =
        Tipset.advancement seat.roster seat.node chronicle.creator.progress.snapshot inner ∧
      (chronicle.creator.progress.snapshot = inner ∨ Progress.isDecisive seat
        (Tipset.advancement seat.roster seat.node chronicle.creator.progress.snapshot inner) = false) ∧
      ∀ candidate node,
        Tipset.advances seat.roster seat.node chronicle.creator.progress.snapshot inner node = true →
          Tipset.advances seat.roster seat.node chronicle.creator.progress.snapshot
            (chronicle.creator.ancestry.mergedParents seat.roster
              (candidate :: chronicle.creator.lastDescriptor.toList)) node = true := by
  cases whole : chronicle.creations with
  | nil =>
      have started := measured.untouched whole
      refine ⟨chronicle.creator.progress.snapshot, ?_, Or.inl rfl, ?_⟩
      · rw [Tipset.advancement_self, started]
        rfl
      · intro candidate node moved
        rw [Tipset.advances_iff] at moved
        omega
  | cons latest older =>
      have isLatest : chronicle.creations.head? = some latest := by simp [whole]
      have held := chained.held latest isLatest
      obtain ⟨own, known⟩ := Option.isSome_iff_exists.mp (tracked latest.event held)
      obtain ⟨_, previous, undecided⟩ := (measured.settled latest isLatest).measured own known
      refine ⟨own, previous, undecided, ?_⟩
      intro candidate node moved
      rw [Tipset.advances_iff] at moved ⊢
      have named : latest.event.descriptor ∈ candidate :: chronicle.creator.lastDescriptor.toList := by
        simp [lastDescriptor, held]
      have merged := Ancestry.height_tip_le_mergedParents seat.roster named known node
      exact ⟨moved.1, by omega⟩

theorem Measured.some_gain {seat : Seat} {chronicle : Chronicle} (measured : Measured seat chronicle)
    (chained : Chained chronicle) (several : 2 ≤ seat.roster.size) (weighted : 0 < seat.roster.total)
    (tracked : ∀ last, chronicle.creator.lastSelfEvent = some last →
      (chronicle.creator.ancestry.tipset? last.descriptor).isSome = true)
    (news : ∀ node, seat.roster.contains node = true → node ≠ seat.node →
      ∃ event ∈ chronicle.creator.childless.events, ∃ tipset,
        chronicle.creator.ancestry.tipset? event.descriptor = some tipset ∧
          Tipset.isBelow (chronicle.creator.progress.snapshot.tip seat.roster node)
            (tipset.tip seat.roster node) = true) :
    ∃ event ∈ chronicle.creator.childless.events, (chronicle.creator.gain event).isNonZero = true := by
  obtain ⟨inner, previous, undecided, nested⟩ := measured.baseline chained tracked
  by_contra stuck
  -- Without any gain, whatever a candidate moves was moved before, and so all other members were.
  have moved : ∀ node, seat.roster.contains node = true → node ≠ seat.node →
      Tipset.advances seat.roster seat.node chronicle.creator.progress.snapshot inner node = true := by
    intro node member different
    obtain ⟨event, listed, tipset, known, above⟩ := news node member different
    have nothing : (chronicle.creator.progress.theoretical seat chronicle.creator.ancestry
        (event.descriptor :: chronicle.creator.lastDescriptor.toList)).isNonZero = false := by
      rw [← measured.seated, ← Bool.not_eq_true]
      exact fun gains => stuck ⟨event, listed, gains⟩
    apply Progress.moved_of_no_gain (by simp) previous (nested event.descriptor) nothing member
    rw [Tipset.advances_iff]
    rw [Tipset.isBelow_iff] at above
    have merged := Ancestry.height_tip_le_mergedParents seat.roster
      (List.mem_cons_self (a := event.descriptor) (l := chronicle.creator.lastDescriptor.toList)) known node
    exact ⟨different, by omega⟩
  rcases undecided with same | undecided
  · obtain ⟨node, member, different⟩ := Roster.exists_other several seat.node
    have impossible := moved node member different
    rw [Tipset.advances_iff, same] at impossible
    omega
  · have decided := Progress.isDecisive_of_all_moved (UInt64.lt_iff_toNat_lt.mp weighted) moved
    rw [undecided] at decided
    exact Bool.noConfusion decided

theorem attempt_of_gain {creator : Creator} (several : creator.seat.roster.size ≠ 1)
    (sameMode : creator.window.mode = creator.mode)
    (gains : ∃ event ∈ creator.childless.events, (creator.gain event).isNonZero = true)
    (surroundings : Surroundings σ) {now time : Instant} (timed : creator.nextTime? now = some time) (supply : σ) :
    ∃ parent ∈ creator.childless.events, (creator.gain parent).isNonZero = true ∧
      (creator.attempt surroundings now supply).outcome = creator.outcomeOn surroundings time supply (some parent) := by
  obtain ⟨candidate, listed, gain⟩ := gains
  rcases attempt_outcome sameMode surroundings timed supply with ⟨other, may, outcome⟩ | ⟨nobody, _⟩
  · cases may with
    | alone single => exact absurd single several
    | candidate _ listed gain => exact ⟨_, listed, gain, outcome⟩
    | first _ _ idle =>
        rw [idle candidate listed] at gain
        exact Bool.noConfusion gain
  · exact absurd (.candidate several listed gain) (nobody (some candidate))

/-- In every state that a run with windows of the creator's mode reaches, over a weighted roster of at least two
members and with a tracked last event of the node, if it has one: when each other member has a childless event
with a tip above the snapshot, some childless event is a gain, and an attempt within the calendar makes an event
on a childless event that is a gain, unless the made event would be ancient. It stops if that childless event or
the node's last one has the highest generation, so that there is none for an event on them. -/
theorem never_stuck_while_a_generation_is_left (seat : Seat) (mode : AncientMode) (settings : CreationSettings)
    (actions : List (Action σ)) (fits : ∀ window, Action.install window ∈ actions → window.mode = mode)
    (several : 2 ≤ seat.roster.size) (weighted : 0 < seat.roster.total)
    (tracked : ∀ last,
      ((Creator.start seat mode settings).history actions).creator.lastSelfEvent = some last →
        (((Creator.start seat mode settings).history actions).creator.ancestry.tipset?
          last.descriptor).isSome = true)
    (news : ∀ node, seat.roster.contains node = true → node ≠ seat.node →
      ∃ event ∈ ((Creator.start seat mode settings).history actions).creator.childless.events, ∃ tipset,
        ((Creator.start seat mode settings).history actions).creator.ancestry.tipset? event.descriptor =
          some tipset ∧
        Tipset.isBelow
          (((Creator.start seat mode settings).history actions).creator.progress.snapshot.tip seat.roster node)
          (tipset.tip seat.roster node) = true) :
    let creator := ((Creator.start seat mode settings).history actions).creator
    (∃ event ∈ creator.childless.events, (creator.gain event).isNonZero = true) ∧
      ∀ (surroundings : Surroundings σ) (now time : Instant) (supply : σ),
        creator.nextTime? now = some time →
        ∃ parent ∈ creator.childless.events, (creator.gain parent).isNonZero = true ∧
          let planned := Event.ofContent?
            (creator.nextContent [parent.descriptor] time (surroundings.take supply).1) surroundings.sign
          (planned = none ↔
            ∃ named ∈ creator.lastDescriptor.toList ++ [parent.descriptor], named.generation = highestGeneration) ∧
          (creator.attempt surroundings now supply).outcome =
            match planned with
            | none => .error .outOfRange
            | some event => .ok (if creator.window.isAncient event.descriptor then none else some event) := by
  intro creator
  have chained := chained_history (Creator.start seat mode settings) actions
  have measured := measured_history seat mode settings actions
  have inMode := inMode_history seat mode settings actions fits
  have gains := measured.some_gain chained several weighted tracked news
  refine ⟨gains, ?_⟩
  intro surroundings now time supply timed
  have members : creator.seat.roster.size ≠ 1 := by
    rw [show creator.seat = seat from measured.seated]
    omega
  obtain ⟨parent, listed, gain, outcome⟩ :=
    attempt_of_gain members (inMode.window.trans inMode.own.symm) gains surroundings timed supply
  exact ⟨parent, listed, gain, Option.map_eq_none_iff.trans nextGeneration?_eq_none_iff, outcome⟩

def triadSeat : Seat :=
  ⟨⟨[⟨⟨0⟩, 1⟩, ⟨⟨1⟩, 2⟩, ⟨⟨2⟩, 0⟩], 3, by decide, by decide, by decide⟩, ⟨0⟩, by decide⟩

def newsRun : List (Action Unit) :=
  [.attempt silent .epoch (), .register (Ancestry.sampleEvent 1 [] 1 0), .attempt silent .epoch (),
    .install ⟨1, 1, 1, .birthRoundThreshold⟩, .register (Ancestry.sampleEvent 1 [] 1 1),
    .register (Ancestry.sampleEvent 2 [] 1 0)]

theorem newsRun_is_not_stuck :
    let creator := ((Creator.start triadSeat .birthRoundThreshold .default).history newsRun).creator
    ∃ parent ∈ creator.childless.events, (creator.gain parent).isNonZero = true ∧
      ∃ event, (creator.attempt silent .epoch ()).outcome = .ok (some event) ∧
        event.otherParents = [parent.descriptor] := by
  have facts :
      let creator := ((Creator.start triadSeat .birthRoundThreshold .default).history newsRun).creator
      (∀ last ∈ creator.lastSelfEvent, (creator.ancestry.tipset? last.descriptor).isSome = true) ∧
        (∀ entry ∈ triadSeat.roster.entries, entry.node ≠ triadSeat.node →
          ∃ event ∈ creator.childless.events, ∃ tipset ∈ creator.ancestry.tipset? event.descriptor,
            Tipset.isBelow (creator.progress.snapshot.tip triadSeat.roster entry.node)
              (tipset.tip triadSeat.roster entry.node) = true) ∧
        (creator.nextTime? .epoch).isSome = true ∧
        (∀ event ∈ creator.childless.events, ∀ named ∈ creator.lastDescriptor.toList ++ [event.descriptor],
          named.generation ≠ highestGeneration) ∧
        creator.mode = .birthRoundThreshold ∧ creator.window = ⟨1, 1, 1, .birthRoundThreshold⟩ := by
    decide +kernel
  obtain ⟨tracked, news, timed, low, mode, window⟩ := facts
  obtain ⟨time, found⟩ := Option.isSome_iff_exists.mp timed
  have safe := never_stuck_while_a_generation_is_left triadSeat .birthRoundThreshold .default newsRun
    (by simp [newsRun]) (by decide) (by decide) tracked
    (by
      intro node member different
      obtain ⟨entry, listed, rfl⟩ := Roster.contains_iff.mp member
      exact news entry listed different)
  obtain ⟨parent, listed, gain, graded, outcome⟩ := safe.2 silent .epoch time () found
  have planned : Event.ofContent? _ _ ≠ none := fun missing =>
    let ⟨named, member, top⟩ := graded.mp missing
    low parent listed named member top
  obtain ⟨event, planned⟩ := Option.ne_none_iff_exists'.mp planned
  rw [planned] at outcome
  obtain ⟨generation, _, rfl⟩ := Option.map_eq_some_iff.mp planned
  refine ⟨parent, listed, gain, _, outcome.trans (congrArg Except.ok (if_neg ?_)), rfl⟩
  rw [Bool.not_eq_true]
  generalize ((Creator.start triadSeat .birthRoundThreshold .default).history newsRun).creator = creator
    at mode window ⊢
  refine (isAncient_nextContent (by rw [window, mode]) _ _ _ _).trans ?_
  rw [nextIndicator, mode, nextBirthRound, mode, window]
  rfl

def crestEvent : Event := Ancestry.sampleEvent 1 [⟨⟨2⟩, 1, highestGeneration - 1, .zero⟩] 1 0

def crestNewsRun : List (Action Unit) := [.register crestEvent, .register (Ancestry.sampleEvent 2 [] 1 0)]

theorem crestNewsRun_is_stuck :
    ¬∀ actions : List (Action Unit),
      let creator := ((Creator.start triadSeat .birthRoundThreshold .default).history actions).creator
      (∀ window, .install window ∈ actions → window.mode = .birthRoundThreshold) →
        (∀ last, creator.lastSelfEvent = some last → (creator.ancestry.tipset? last.descriptor).isSome = true) →
        (∀ node, triadSeat.roster.contains node = true → node ≠ triadSeat.node →
          ∃ event ∈ creator.childless.events, ∃ tipset,
            creator.ancestry.tipset? event.descriptor = some tipset ∧
              Tipset.isBelow (creator.progress.snapshot.tip triadSeat.roster node)
                (tipset.tip triadSeat.roster node) = true) →
        ∀ (surroundings : Surroundings Unit) (now time : Instant), creator.nextTime? now = some time →
          ∃ result, (creator.attempt surroundings now ()).outcome = .ok result := by
  intro claimed
  have facts :
      let creator := ((Creator.start triadSeat .birthRoundThreshold .default).history crestNewsRun).creator
      creator.lastSelfEvent = none ∧
        (∀ entry ∈ triadSeat.roster.entries, entry.node ≠ triadSeat.node →
          ∃ event ∈ creator.childless.events, ∃ tipset ∈ creator.ancestry.tipset? event.descriptor,
            Tipset.isBelow (creator.progress.snapshot.tip triadSeat.roster entry.node)
              (tipset.tip triadSeat.roster entry.node) = true) ∧
        creator.nextTime? .epoch = some .epoch ∧
        (creator.attempt silent .epoch ()).outcome = .error .outOfRange := by
    decide +kernel
  obtain ⟨fresh, news, timed, stopped⟩ := facts
  obtain ⟨result, outcome⟩ := claimed crestNewsRun (by simp [crestNewsRun])
    (by
      intro last held
      cases fresh.symm.trans held)
    (by
      intro node member different
      obtain ⟨entry, listed, rfl⟩ := Roster.contains_iff.mp member
      exact news entry listed different)
    silent .epoch .epoch timed
  cases stopped.symm.trans outcome

end Creator

end Hashgraph
