import Hashgraph.Proofs.Snapshots

/-! Selfishness scores count the snapshots that have passed a member over since one raised its tip. The node does
not score itself, and a new event is no blame for the member that it builds on. -/

namespace Hashgraph

namespace Roster

theorem eq_of_size_one {roster : Roster} (alone : roster.size = 1) {a b : NodeId}
    (memberA : roster.contains a = true) (memberB : roster.contains b = true) : a = b := by
  obtain ⟨first, foundA⟩ := Option.isSome_iff_exists.mp memberA
  obtain ⟨second, foundB⟩ := Option.isSome_iff_exists.mp memberB
  have boundA := position?_bound foundA
  have boundB := position?_bound foundB
  have same : first = second := by omega
  exact position?_injective foundA (same ▸ foundB)

end Roster

namespace ChildlessEvents

theorem Filed.eventFor_eq_some_iff {tracked : ChildlessEvents} (filed : Filed tracked) {node : NodeId}
    {event : Event} : tracked.eventFor node = some event ↔ event ∈ tracked.events ∧ event.creator = node := by
  rw [filed.sole.mem_events_iff, eventFor, Option.filter_eq_some_iff]
  constructor
  · rintro ⟨newest, held⟩
    obtain ⟨stored, found⟩ := Option.isSome_iff_exists.mp held
    obtain ⟨named, storedNewest⟩ := filed.sole _ stored found
    have creator : event.creator = node := filed.named node event newest
    have same : stored.creator = node := (congrArg EventDescriptor.creator named).trans creator
    rw [same, newest] at storedNewest
    cases storedNewest
    exact ⟨found, creator⟩
  · rintro ⟨found, rfl⟩
    exact ⟨(filed.sole _ event found).2, Option.isSome_iff_exists.mpr ⟨event, found⟩⟩

theorem Filed.any_eventFor {tracked : ChildlessEvents} (filed : Filed tracked) (node : NodeId)
    (holds : Event → Bool) :
    (tracked.eventFor node).any holds =
      tracked.events.any fun event => decide (event.creator = node) && holds event := by
  rw [Bool.eq_iff_iff, Option.any_eq_true, List.any_eq_true]
  simp only [filed.eventFor_eq_some_iff, Bool.and_eq_true, decide_eq_true_eq, and_assoc]

end ChildlessEvents

namespace Progress

theorem scores_record? {progress : Progress} {seat : Seat} {ancestry : Ancestry} {childless : ChildlessEvents}
    {descriptor : EventDescriptor} {step : Step} {tipset : Tipset}
    (recorded : progress.record? seat ancestry childless descriptor = some step)
    (tracked : ancestry.tipset? descriptor = some tipset) :
    step.progress.scores =
      if isDecisive seat (Tipset.advancement seat.roster seat.node progress.snapshot tipset) then
        List.zipWith (progress.nextScore seat childless tipset) seat.roster.nodes progress.scores
      else progress.scores := by
  rw [record?, tracked, Option.map_some, Option.some.injEq] at recorded
  subst recorded
  simp only
  split <;> rfl

theorem score_zipWith {progress next : Progress} {roster : Roster} {change : NodeId → Nat → Nat} {node : NodeId}
    (fits : progress.scores.length = roster.size) (member : roster.contains node = true)
    (changed : next.scores = List.zipWith change roster.nodes progress.scores) :
    next.score roster node = change node (progress.score roster node) := by
  obtain ⟨position, found⟩ := Option.isSome_iff_exists.mp member
  have bound : position < progress.scores.length := fits ▸ Roster.position?_bound found
  simp [score, found, changed, List.getElem?_zipWith, Roster.node_at_position found,
    List.getElem?_eq_getElem bound]

theorem score_of_stranger (progress : Progress) {roster : Roster} {node : NodeId}
    (stranger : roster.contains node = false) : progress.score roster node = 0 := by
  have nowhere : roster.position? node = none := by simpa [Roster.contains] using stranger
  simp [score, nowhere]

theorem score_start (roster : Roster) (node : NodeId) : (start roster).score roster node = 0 := by
  cases found : roster.position? node with
  | none => simp [score, found]
  | some position => simp [score, found, start, Roster.position?_bound found]

end Progress

namespace Creator

variable {σ : Type}

namespace Creation

def oldTip (creation : Creation) (node : NodeId) : Option Generation :=
  creation.before.progress.snapshot.tip creation.before.seat.roster node

def raises (creation : Creation) (node : NodeId) : Bool :=
  Tipset.isBelow (creation.oldTip node) (creation.tipset.tip creation.before.seat.roster node)

def leavesOut (creation : Creation) (node : NodeId) : Bool :=
  creation.before.childless.events.any fun event =>
    decide (event.creator = node) && Tipset.isBelow (creation.oldTip node) event.nGen

end Creation

/-- The snapshots that passed a member over since the latest one that raised its tip. -/
def timesPassedOver (creations : List Creation) (node : NodeId) : Nat :=
  ((creations.filter Creation.replaces).takeWhile fun creation => !creation.raises node).countP
    fun creation => creation.leavesOut node

theorem timesPassedOver_cons (creation : Creation) (older : List Creation) (node : NodeId) :
    timesPassedOver (creation :: older) node =
      if creation.replaces then
        if creation.raises node then 0 else timesPassedOver older node + (creation.leavesOut node).toNat
      else timesPassedOver older node := by
  unfold timesPassedOver
  cases replaced : creation.replaces with
  | false => simp [replaced]
  | true =>
      cases raised : creation.raises node with
      | true => simp [replaced, raised]
      | false => cases left : creation.leavesOut node <;> simp [replaced, raised, left]

theorem Creation.scores {creation : Creation} {after : Creator}
    (extended : Extended creation.before creation.event after) (fresh : creation.before.ancestry.Fresh) :
    after.progress.scores =
      if creation.replaces then
        List.zipWith
          (creation.before.progress.nextScore creation.before.seat creation.before.childless creation.tipset)
          creation.before.seat.roster.nodes creation.before.progress.scores
      else creation.before.progress.scores := by
  obtain ⟨step, recorded, progress⟩ := extended.recorded
  rw [progress, Progress.scores_record? recorded (extended.tracked fresh), (extended.snapshot fresh).1]
  rfl

theorem Creation.nextScore {creation : Creation} (filed : creation.before.childless.Filed) {node : NodeId}
    (other : node ≠ creation.before.seat.node) (score : Nat) :
    creation.before.progress.nextScore creation.before.seat creation.before.childless creation.tipset node score =
      if creation.raises node then 0 else score + (creation.leavesOut node).toNat := by
  simp only [Progress.nextScore, filed.any_eventFor, if_neg other]
  change (if creation.raises node = true then 0 else if creation.leavesOut node = true then score + 1 else score) = _
  cases creation.leavesOut node <;> rfl

theorem Creation.score {creation : Creation} {after : Creator}
    (extended : Extended creation.before creation.event after) (fresh : creation.before.ancestry.Fresh)
    (filed : creation.before.childless.Filed) {seat : Seat} (seated : creation.before.seat = seat)
    (fits : creation.before.progress.scores.length = seat.roster.size) {node : NodeId}
    (member : seat.roster.contains node = true) :
    after.progress.score seat.roster node =
      if creation.replaces = true ∧ node ≠ seat.node then
        if creation.raises node then 0
        else creation.before.progress.score seat.roster node + (creation.leavesOut node).toNat
      else creation.before.progress.score seat.roster node := by
  subst seated
  have scores := Creation.scores extended fresh
  by_cases replaced : creation.replaces = true
  · rw [if_pos replaced] at scores
    rw [Progress.score_zipWith fits member scores]
    by_cases own : node = creation.before.seat.node
    · rw [if_neg fun both => both.2 own, Progress.nextScore, if_pos own]
    · rw [if_pos ⟨replaced, own⟩, Creation.nextScore filed own]
  · rw [if_neg replaced] at scores
    rw [if_neg fun both => replaced both.1, Progress.score, Progress.score, scores]

theorem filed_history (seat : Seat) (mode : AncientMode) (settings : CreationSettings)
    (actions : List (Action σ)) :
    ((Creator.start seat mode settings).history actions).creator.childless.Filed := by
  obtain ⟨steps, same⟩ := exists_childless_steps seat mode settings actions
  rw [same]
  exact ChildlessEvents.filed_after steps

structure Scored (seat : Seat) (chronicle : Chronicle) : Prop where
  fits : chronicle.creator.progress.scores.length = seat.roster.size
  counted : ∀ node, seat.roster.contains node = true → node ≠ seat.node →
    chronicle.creator.progress.score seat.roster node = timesPassedOver chronicle.creations node
  own : chronicle.creator.progress.score seat.roster seat.node = 0

theorem Scored.start (seat : Seat) {creator : Creator} (untouched : creator.progress = .start seat.roster) :
    Scored seat ⟨creator, []⟩ where
  fits := by simp [untouched, Progress.start]
  counted := by
    intro node _ _
    rw [untouched, Progress.score_start]
    rfl
  own := by rw [untouched, Progress.score_start]

theorem Scored.of_creator {seat : Seat} {chronicle : Chronicle} (scored : Scored seat chronicle)
    {creator : Creator} (same : creator.progress = chronicle.creator.progress) :
    Scored seat { chronicle with creator := creator } where
  fits := same ▸ scored.fits
  counted := same ▸ scored.counted
  own := same ▸ scored.own

theorem Scored.extend {seat : Seat} (creation : Creation) {older : List Creation}
    (scored : Scored seat ⟨creation.before, older⟩) (seated : creation.before.seat = seat)
    (fresh : creation.before.ancestry.Fresh) (filed : creation.before.childless.Filed) {after : Creator}
    (extended : Extended creation.before creation.event after) : Scored seat ⟨after, creation :: older⟩ := by
  have score := fun node (member : seat.roster.contains node = true) =>
    Creation.score extended fresh filed seated scored.fits member
  constructor
  · have nodes : creation.before.seat.roster.nodes.length = seat.roster.size := seated ▸ List.length_map _
    rw [Creation.scores extended fresh]
    split
    · rw [List.length_zipWith, nodes, scored.fits, Nat.min_self]
    · exact scored.fits
  · intro node member other
    rw [score node member, timesPassedOver_cons, scored.counted node member other]
    simp only [other, ne_eq, not_false_eq_true, and_true]
  · rw [score _ seat.member, if_neg fun both => both.2 rfl]
    exact scored.own

theorem scored_history (seat : Seat) (mode : AncientMode) (settings : CreationSettings)
    (actions : List (Action σ)) : Scored seat ((Creator.start seat mode settings).history actions) := by
  induction actions using List.reverseRecOn with
  | nil => exact .start seat rfl
  | append_singleton actions action ih =>
      have measured := measured_history seat mode settings actions
      have filed := filed_history seat mode settings actions
      rw [history_concat]
      generalize (Creator.start seat mode settings).history actions = chronicle at ih measured filed
      cases action with
      | register event =>
          apply ih.of_creator
          rcases chronicle.creator.register_cases event with same | ⟨_, _, _, replaced⟩ | ⟨_, _, peer⟩
          · rw [same]
          · rw [replaced]
          · rw [peer]
      | install window => exact ih.of_creator rfl
      | attempt surroundings now supply =>
          rcases chronicle.next_attempt_cases surroundings now supply with
            ⟨_, event, after, result, _, _, extended⟩ | ⟨after, result, agrees⟩
          · rw [result]
            exact Scored.extend ⟨chronicle.creator, event⟩ ih measured.seated measured.fresh filed extended
          · rw [result]
            exact ih.of_creator agrees.progress
      | clear =>
          apply Scored.start
          simp only [clear, measured.seated]

/-! ### The member that an event is built on -/

def SteadyNumbers (actions : List (Action σ)) : Prop :=
  ∀ first ∈ actions.filterMap Action.event?, ∀ second ∈ actions.filterMap Action.event?,
    first.descriptor = second.descriptor → first.nGen = second.nGen

instance (actions : List (Action σ)) : Decidable (SteadyNumbers actions) :=
  inferInstanceAs (Decidable (∀ first ∈ actions.filterMap Action.event?,
    ∀ second ∈ actions.filterMap Action.event?, first.descriptor = second.descriptor → first.nGen = second.nGen))

structure Vouched (events : List Event) (creator : Creator) : Prop where
  arrived : ∀ descriptor event, creator.childless.childless.find? descriptor = some event → event ∈ events
  reached : ∀ event ∈ events, event.creator ≠ creator.seat.node → ∀ tipset,
    creator.ancestry.tipset? event.descriptor = some tipset →
      Tipset.height event.nGen ≤ Tipset.height (tipset.tip creator.seat.roster event.creator)

section Vouched

variable {events : List Event} {before after : Creator}

theorem Vouched.nothing {roster : Roster} {mode : AncientMode} (childless : after.childless = .empty)
    (ancestry : after.ancestry = .start roster mode) : Vouched events after where
  arrived := by simp [childless, ChildlessEvents.empty]
  reached := by simp [ancestry]

theorem Vouched.agrees (vouched : Vouched events before) (same : Agrees before after) : Vouched events after where
  arrived := same.childless ▸ vouched.arrived
  reached := same.ancestry ▸ same.seat ▸ vouched.reached

/-- An own event has a tipset of its own, and only takes childless events away. -/
theorem Vouched.own (vouched : Vouched events before) (seat : after.seat = before.seat)
    {descriptor : EventDescriptor} {parents others : List EventDescriptor}
    (own : descriptor.creator = before.seat.node)
    (ancestry : after.ancestry = (before.ancestry.receive before.seat.roster (.own descriptor parents)).2)
    (childless : after.childless = before.childless.retire others) : Vouched events after where
  arrived := by
    intro other event found
    rw [childless, ChildlessEvents.find?_retire] at found
    split at found
    · simp at found
    · exact vouched.arrived other event found
  reached := by
    rw [seat, ancestry]
    intro event listed foreign tipset found
    rw [Ancestry.tipset?_receive, if_neg] at found
    · exact vouched.reached event listed foreign tipset found
    · rintro ⟨same, _⟩
      exact foreign ((congrArg EventDescriptor.creator same).symm.trans own)

theorem Vouched.register (vouched : Vouched events before)
    (steady : ∀ first ∈ events, ∀ second ∈ events, first.descriptor = second.descriptor → first.nGen = second.nGen)
    {event : Event} (listed : event ∈ events) : Vouched events (before.register event) := by
  rcases before.register_cases event with same | ⟨_, own, _, replaced⟩ | ⟨admitted, other, peer⟩
  · rw [same]
    exact vouched
  · rw [replaced]
    exact vouched.own rfl own rfl rfl
  · rw [peer]
    constructor
    · intro descriptor candidate found
      rcases ChildlessEvents.find?_add found with known | ⟨_, rfl⟩
      · exact vouched.arrived descriptor candidate known
      · exact listed
    · intro known listedToo foreign tipset found
      change (before.ancestry.receive before.seat.roster (.peer event)).2.tipset? known.descriptor = _ at found
      rw [Ancestry.tipset?_receive] at found
      split at found
      · -- The tipset is that of the new event, which has the number of the known one.
        rename_i stored
        cases found
        have number : event.nGen = known.nGen := steady event listed known listedToo stored.1
        have creator : event.creator = known.creator := congrArg EventDescriptor.creator stored.1
        change _ ≤ Tipset.height (Tipset.tip _ before.seat.roster known.creator)
        rw [Ancestry.tip_receive before.ancestry (.peer event) other (creator ▸ admitted.member)]
        simp only [creator, if_true, Tipset.height_higher, number]
        exact Nat.le_max_right _ _
      · exact vouched.reached known listedToo foreign tipset found

theorem Vouched.setWindow (vouched : Vouched events before) (window : EventWindow) :
    Vouched events (before.setWindow window) where
  arrived := fun descriptor event found => vouched.arrived descriptor event (ChildlessEvents.find?_prune found).2
  reached := by
    intro event listed foreign tipset found
    change (before.ancestry.setWindow window).tipset? event.descriptor = some tipset at found
    rw [Ancestry.tipset?_setWindow, Option.filter_eq_some_iff] at found
    exact vouched.reached event listed foreign tipset found.1

end Vouched

theorem vouched_history (seat : Seat) (mode : AncientMode) (settings : CreationSettings)
    {actions : List (Action σ)} (steady : SteadyNumbers actions) :
    Vouched (actions.filterMap Action.event?) ((Creator.start seat mode settings).history actions).creator := by
  apply history_induction _ actions
    (motive := fun chronicle => Vouched (actions.filterMap Action.event?) chronicle.creator)
  · exact .nothing rfl rfl
  · intro chronicle vouched action listed
    cases action with
    | register event => exact vouched.register steady (List.mem_filterMap.mpr ⟨_, listed, rfl⟩)
    | install window => exact vouched.setWindow window
    | attempt surroundings now supply =>
        rcases chronicle.next_attempt_cases surroundings now supply with
          ⟨_, event, after, result, _, made, extended⟩ | ⟨after, result, agrees⟩
        · rw [result]
          exact vouched.own extended.seat made.creator extended.ancestry extended.childless
        · rw [result]
          exact vouched.agrees agrees
    | clear => exact .nothing rfl rfl

theorem Creation.raises_of_leavesOut {events : List Event} {creation : Creation} {parent : Event}
    (vouched : Vouched events creation.before) (filed : creation.before.childless.Filed)
    (suitable : Suitable creation.before parent) (listed : parent ∈ creation.before.childless.events)
    (own : creation.event.descriptor.creator = creation.before.seat.node)
    (named : parent.descriptor ∈ creation.event.parents) (left : creation.leavesOut parent.creator = true) :
    creation.raises parent.creator = true := by
  obtain ⟨tipset, tracked⟩ := Option.isSome_iff_exists.mp suitable.tracked
  have ahead : Tipset.isBelow (creation.oldTip parent.creator) parent.nGen = true := by
    obtain ⟨event, among, same⟩ := List.any_eq_true.mp left
    rw [Bool.and_eq_true, decide_eq_true_eq] at same
    have only := filed.eventFor_eq_some_iff.mpr ⟨among, same.1⟩
    rw [filed.eventFor_eq_some_iff.mpr ⟨listed, rfl⟩] at only
    exact Option.some.inj only ▸ same.2
  have arrived := vouched.arrived _ parent (filed.sole.mem_events_iff.mp listed)
  rw [Tipset.isBelow_iff] at ahead
  rw [raises, Tipset.isBelow_iff, Creation.tip_tipset rfl own, if_neg (Ne.symm suitable.other)]
  calc Tipset.height (creation.oldTip parent.creator)
      < Tipset.height parent.nGen := ahead
    _ ≤ Tipset.height (tipset.tip creation.before.seat.roster parent.creator) :=
        vouched.reached parent arrived suitable.other tipset tracked
    _ ≤ _ := Ancestry.height_tip_le_mergedParents creation.before.seat.roster named tracked parent.creator

theorem Scored.score_parent_le {seat : Seat} (creation : Creation) {older : List Creation} {events : List Event}
    (scored : Scored seat ⟨creation.before, older⟩) (seated : creation.before.seat = seat)
    (fresh : creation.before.ancestry.Fresh) (filed : creation.before.childless.Filed)
    (vouched : Vouched events creation.before) (stocked : Stocked creation.before) {after : Creator}
    (extended : Extended creation.before creation.event after) {parent : Event}
    (listed : parent ∈ creation.before.childless.events)
    (own : creation.event.descriptor.creator = creation.before.seat.node)
    (named : parent.descriptor ∈ creation.event.parents) :
    after.progress.score seat.roster parent.creator ≤
      creation.before.progress.score seat.roster parent.creator := by
  have suitable := stocked.suitable listed
  rw [Creation.score extended fresh filed seated scored.fits (seated ▸ suitable.member)]
  split
  · split
    · exact Nat.zero_le _
    · rename_i unraised
      cases left : creation.leavesOut parent.creator with
      | false => exact Nat.le_refl _
      | true => exact absurd (Creation.raises_of_leavesOut vouched filed suitable listed own named left) unraised
  · exact Nat.le_refl _

/-- In every state that a run reaches, the score of another member is the number of snapshots, since the latest one
that raised its tip, that passed over a childless event of it beyond the snapshot before. The node's own score is
zero. If registered events always carry the same numbers, no new event raises the score of the creator of its
other-parent. -/
theorem selfishness_counts_the_snapshots_that_passed_over (seat : Seat) (mode : AncientMode)
    (settings : CreationSettings) (actions : List (Action σ)) :
    let chronicle := (Creator.start seat mode settings).history actions
    (∀ node ∈ seat.roster.nodes, node ≠ seat.node →
        chronicle.creator.selfishness node = timesPassedOver chronicle.creations node) ∧
      chronicle.creator.selfishness seat.node = 0 ∧
      (SteadyNumbers actions → ∀ (surroundings : Surroundings σ) (now : Instant) (supply : σ) (event : Event),
        (chronicle.creator.attempt surroundings now supply).outcome = .ok (some event) →
        ∀ parent ∈ event.otherParents,
          (chronicle.creator.attempt surroundings now supply).creator.selfishness parent.creator ≤
            chronicle.creator.selfishness parent.creator) := by
  intro chronicle
  have measured := measured_history seat mode settings actions
  have scored := scored_history seat mode settings actions
  have seated : chronicle.creator.seat = seat := measured.seated
  simp only [Creator.selfishness, seat_attempt, seated]
  refine ⟨?_, scored.own, ?_⟩
  · intro node listed
    obtain ⟨entry, among, named⟩ := List.mem_map.mp listed
    exact scored.counted node (Roster.contains_iff.mpr ⟨entry, among, named⟩)
  · intro steady surroundings now supply event made parent named
    rcases chronicle.creator.attempt_cases surroundings now supply with
      ⟨other, new, outcome, may, built, extended⟩ | ⟨refused, _⟩
    · cases made.symm.trans outcome
      rw [built.otherParents] at named
      cases may with
      | alone single =>
          -- The node is the only one with a score, which is zero.
          have later := scored_history seat mode settings (actions ++ [.attempt surroundings now supply])
          rw [history_concat] at later
          have own := later.own
          rw [creator_next_attempt] at own
          cases member : seat.roster.contains parent.creator with
          | false => simp [Progress.score_of_stranger _ member]
          | true =>
              rw [Roster.eq_of_size_one (seated ▸ single) member seat.member, own]
              exact Nat.zero_le _
      | @candidate candidate _ listed _ =>
          have same : parent = candidate.descriptor := by simpa using named
          subst same
          have among : candidate.descriptor ∈ event.parents := by simp [built.parents]
          exact Scored.score_parent_le ⟨chronicle.creator, event⟩ scored seated measured.fresh
            (filed_history seat mode settings actions) (vouched_history seat mode settings steady)
            (stocked_history seat mode settings actions) extended listed built.creator among
      | first _ _ _ => simp at named
    · exact absurd made (refused event)

def leavingRun : List (Action Unit) :=
  let left := Ancestry.sampleEvent 2 [] 1 0
  [.attempt silent .epoch (), .register left, .register (Ancestry.sampleEvent 1 [] 1 0), .attempt silent .epoch (),
    .register (Ancestry.sampleEvent 1 [left.descriptor] 1 1), .attempt silent .epoch (),
    .register (Ancestry.sampleEvent 2 [] 2 1), .register (Ancestry.sampleEvent 1 [] 2 2), .attempt silent .epoch (),
    .register (Ancestry.sampleEvent 1 [] 3 3)]

theorem leavingRun_scores_member_2 :
    let chronicle := (Creator.start triadSeat .birthRoundThreshold .default).history leavingRun
    let attempt := chronicle.creator.attempt silent .epoch ()
    (chronicle.creations.countP fun creation => creation.replaces && creation.leavesOut ⟨2⟩) = 2 ∧
      chronicle.creator.selfishness ⟨2⟩ = 1 ∧ chronicle.creator.selfishness ⟨0⟩ = 0 ∧
      ∃ event, attempt.outcome = .ok (some event) ∧ Creation.replaces ⟨chronicle.creator, event⟩ = true ∧
        ∀ parent ∈ event.otherParents, Creation.leavesOut ⟨chronicle.creator, event⟩ parent.creator = true ∧
          attempt.creator.selfishness parent.creator = 0 := by
  have facts :
      let chronicle := (Creator.start triadSeat .birthRoundThreshold .default).history leavingRun
      let attempt := chronicle.creator.attempt silent .epoch ()
      SteadyNumbers leavingRun ∧
        (chronicle.creations.countP fun creation => creation.replaces && creation.leavesOut ⟨2⟩) = 2 ∧
        timesPassedOver chronicle.creations ⟨2⟩ = 1 ∧ timesPassedOver chronicle.creations ⟨1⟩ = 0 ∧
        ∃ event ∈ attempt.event?, Creation.replaces ⟨chronicle.creator, event⟩ = true ∧
          ∀ parent ∈ event.otherParents, parent.creator = ⟨1⟩ ∧
            Creation.leavesOut ⟨chronicle.creator, event⟩ parent.creator = true := by
    decide +kernel
  obtain ⟨steady, left, second, first, event, made, replaced, parents⟩ := facts
  have created := Attempt.event?_eq_some.mp made
  obtain ⟨counted, own, blameless⟩ :=
    selfishness_counts_the_snapshots_that_passed_over triadSeat .birthRoundThreshold .default leavingRun
  refine ⟨left, (counted ⟨2⟩ (by decide) (by decide)).trans second, own, event, created, replaced, ?_⟩
  intro parent named
  obtain ⟨creator, leaves⟩ := parents parent named
  have unblamed := blameless steady silent .epoch () event created parent named
  rw [creator, (counted ⟨1⟩ (by decide) (by decide)).trans first] at unblamed
  exact ⟨leaves, creator ▸ Nat.le_zero.mp unblamed⟩

end Creator

end Hashgraph
