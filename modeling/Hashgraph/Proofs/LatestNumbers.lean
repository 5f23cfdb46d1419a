import Hashgraph.Proofs.Improvement
import Hashgraph.Proofs.MergeLaws
import Hashgraph.Proofs.OwnTip
import Hashgraph.Proofs.Retention

/-! The highest numbers seen. Of every other member the ancestry keeps the highest number among its events that
were registered since the last clearing and were not ancient then; windows that forget these events do not lower it.
Neither a tipset that is tracked nor the snapshot is ahead of these numbers. -/

namespace Hashgraph

namespace Ancestry

theorem dominates_latest_iff {ancestry : Ancestry} {roster : Roster} {tipset : Tipset} :
    ancestry.latest.Dominates roster tipset ↔ ∀ node, roster.contains node = true →
      Tipset.height (tipset.tip roster node) ≤ Tipset.height (ancestry.latestFor roster node) := by
  simp only [Tipset.Dominates, Tipset.isBelow_eq_false_iff, Roster.contains_iff, Roster.nodes, List.mem_map, latestFor]

structure Topped (roster : Roster) (ancestry : Ancestry) : Prop where
  fits : ancestry.latest.tips.length = roster.size
  above : ∀ descriptor tipset, ancestry.tipset? descriptor = some tipset → ancestry.latest.Dominates roster tipset

theorem Topped.start (roster : Roster) (mode : AncientMode) : Topped roster (start roster mode) where
  fits := Tipset.length_empty roster
  above := by simp

theorem Topped.setWindow {roster : Roster} {ancestry : Ancestry} (topped : Topped roster ancestry)
    (window : EventWindow) : Topped roster (ancestry.setWindow window) where
  fits := topped.fits
  above := by
    intro descriptor tipset found
    rw [tipset?_setWindow, Option.filter_eq_some_iff] at found
    exact topped.above descriptor tipset found.1

theorem Topped.mergedParents {roster : Roster} {ancestry : Ancestry} (topped : Topped roster ancestry)
    (parents : List EventDescriptor) : ancestry.latest.Dominates roster (ancestry.mergedParents roster parents) := by
  rw [Ancestry.mergedParents, Tipset.dominates_mergeAll_iff]
  intro tipset listed
  obtain ⟨parent, _, tracked⟩ := List.mem_filterMap.mp listed
  exact topped.above parent tipset tracked

theorem Topped.dominates_latest {roster : Roster} {ancestry : Ancestry} (topped : Topped roster ancestry)
    (arrival : Arrival) : (ancestry.receive roster arrival).2.latest.Dominates roster ancestry.latest := by
  rw [dominates_latest_iff]
  intro node _
  rw [latestFor_receive topped.fits]
  cases arrival with
  | peer event =>
      simp only
      split
      · rw [Tipset.height_higher]
        exact Nat.le_max_left _ _
      · exact Nat.le_refl _
  | own descriptor parents => exact Nat.le_refl _

theorem Topped.dominates_receive {roster : Roster} {self : NodeId} {ancestry : Ancestry}
    (topped : Topped roster ancestry) {arrival : Arrival} (owned : arrival.BelongsTo self) :
    (ancestry.receive roster arrival).2.latest.Dominates roster (ancestry.receive roster arrival).1 := by
  rw [dominates_latest_iff]
  intro node member
  have merged := fun parents => dominates_latest_iff.mp (topped.mergedParents parents) node member
  rw [latestFor_receive topped.fits, tip_receive ancestry arrival owned member]
  cases arrival with
  | peer event =>
      simp only [member, and_true]
      split
      · rw [Tipset.height_higher, Tipset.height_higher]
        exact max_le_max_right _ (merged event.parents)
      · exact merged event.parents
  | own descriptor parents =>
      simp only
      split
      · exact Nat.zero_le _
      · exact merged parents

theorem Topped.receive {roster : Roster} {self : NodeId} {ancestry : Ancestry} (topped : Topped roster ancestry)
    {arrival : Arrival} (owned : arrival.BelongsTo self) : Topped roster (ancestry.receive roster arrival).2 where
  fits := (length_latest_receive ancestry roster arrival).trans topped.fits
  above := by
    intro descriptor tipset found
    rw [tipset?_receive] at found
    split at found
    · cases found
      exact topped.dominates_receive owned
    · exact (topped.dominates_latest arrival).trans (topped.above descriptor tipset found)

theorem topped_ofSteps (roster : Roster) (self : NodeId) (mode : AncientMode) (steps : List Step)
    (owned : ∀ step ∈ steps, step.BelongsTo self) :
    Topped roster (Record.ofSteps roster mode steps).ancestry := by
  apply Record.ofSteps_induction roster mode steps (motive := fun record => Topped roster record.ancestry)
  · exact .start roster mode
  · intro record topped step listed
    cases step with
    | add arrival => exact topped.receive (owned _ listed)
    | install window => exact topped.setWindow window
    | clear => exact .start roster mode

end Ancestry

namespace Creator

variable {σ : Type}

theorem Stepped.topped {seat : Seat} {mode : AncientMode} {creator : Creator}
    (stepped : Stepped seat mode creator) : creator.ancestry.Topped seat.roster := by
  obtain ⟨steps, belong, equal⟩ := stepped.steps
  exact equal ▸ Ancestry.topped_ofSteps seat.roster seat.node mode steps belong

theorem latest_attempt (creator : Creator) (surroundings : Surroundings σ) (now : Instant) (supply : σ) :
    (creator.attempt surroundings now supply).creator.ancestry.latest = creator.ancestry.latest := by
  rcases creator.attempt_cases surroundings now supply with ⟨_, _, _, _, _, extended⟩ | ⟨_, agrees⟩
  · rw [extended.ancestry]
    exact Ancestry.latest_store _ _ _
  · rw [agrees.ancestry]

theorem Stepped.dominates_latest_register {seat : Seat} {mode : AncientMode} {creator : Creator}
    (stepped : Stepped seat mode creator) (event : Event) :
    (creator.register event).ancestry.latest.Dominates seat.roster creator.ancestry.latest := by
  have topped := stepped.topped
  obtain rfl := stepped.seated
  rcases creator.register_cases event with same | ⟨_, _, _, replaced⟩ | ⟨_, _, peer⟩
  · rw [same]
    exact .refl _ _
  · rw [replaced]
    exact topped.dominates_latest (.own event.descriptor event.parents)
  · rw [peer]
    exact topped.dominates_latest (.peer event)

theorem Stepped.dominates_latest_next {seat : Seat} {mode : AncientMode} {chronicle : Chronicle}
    (stepped : Stepped seat mode chronicle.creator) {action : Action σ} (kept : action ≠ .clear) :
    (chronicle.next action).creator.ancestry.latest.Dominates seat.roster chronicle.creator.ancestry.latest := by
  cases action with
  | register event => exact stepped.dominates_latest_register event
  | install window => exact .refl _ _
  | attempt surroundings now supply =>
      rw [creator_next_attempt, latest_attempt]
      exact .refl _ _
  | clear => exact absurd rfl kept

theorem Stepped.latestFor_register {seat : Seat} {mode : AncientMode} {creator : Creator}
    (stepped : Stepped seat mode creator) {node : NodeId} (member : seat.roster.contains node = true)
    (other : node ≠ seat.node) (event : Event) :
    (creator.register event).ancestry.latestFor seat.roster node =
      if creator.window.isAncient event.descriptor = false ∧ event.creator = node then
        Tipset.higher (creator.ancestry.latestFor seat.roster node) event.nGen
      else creator.ancestry.latestFor seat.roster node := by
  have fits := stepped.topped.fits
  obtain rfl := stepped.seated
  by_cases heard : creator.window.isAncient event.descriptor = false ∧ event.creator = node
  · obtain ⟨young, rfl⟩ := heard
    rw [register_of_peer young member other, if_pos ⟨young, rfl⟩]
    exact (Ancestry.latestFor_receive fits (.peer event) _).trans (if_pos ⟨rfl, member⟩)
  · rw [if_neg heard]
    rcases creator.register_cases event with same | ⟨_, _, _, replaced⟩ | ⟨admitted, _, peer⟩
    · rw [same]
    · rw [replaced]
      exact Ancestry.latestFor_receive fits (.own event.descriptor event.parents) node
    · rw [peer]
      refine (Ancestry.latestFor_receive fits (.peer event) node).trans (if_neg ?_)
      exact fun named => heard ⟨admitted.young, named.1⟩

def RegisteredYoung (start : Creator) (actions : List (Action σ)) (event : Event) : Prop :=
  ∃ before since, actions = before ++ .register event :: since ∧ .clear ∉ since ∧
    (start.history before).creator.window.isAncient event.descriptor = false

theorem registeredYoung_concat (start : Creator) (actions : List (Action σ)) (action : Action σ) (event : Event) :
    RegisteredYoung start (actions ++ [action]) event ↔
      (action = .register event ∧ (start.history actions).creator.window.isAncient event.descriptor = false) ∨
        (action ≠ .clear ∧ RegisteredYoung start actions event) := by
  constructor
  · rintro ⟨before, since, whole, lasting, young⟩
    rcases Ancestry.eq_append_cons_concat whole with ⟨rfl, rfl, rfl⟩ | ⟨shorter, rfl, rfl⟩
    · exact Or.inl ⟨rfl, young⟩
    · rw [List.mem_append, List.mem_singleton, not_or] at lasting
      exact Or.inr ⟨Ne.symm lasting.2, before, shorter, rfl, lasting.1, young⟩
  · rintro (⟨rfl, young⟩ | ⟨kept, before, since, rfl, lasting, young⟩)
    · exact ⟨actions, [], rfl, List.not_mem_nil, young⟩
    · refine ⟨before, since ++ [action], by simp, ?_, young⟩
      rw [List.mem_append, List.mem_singleton, not_or]
      exact ⟨lasting, Ne.symm kept⟩

def RegisteredNumber (start : Creator) (actions : List (Action σ)) (node : NodeId) (nGen : Generation) : Prop :=
  ∃ event, RegisteredYoung start actions event ∧ event.creator = node ∧ event.nGen = some nGen

theorem registeredNumber_of_keeping {action : Action σ} (kept : action ≠ .clear)
    (unregistered : ∀ event, action ≠ .register event) (start : Creator) (actions : List (Action σ)) (node : NodeId)
    (nGen : Generation) :
    RegisteredNumber start (actions ++ [action]) node nGen ↔ RegisteredNumber start actions node nGen := by
  simp [RegisteredNumber, registeredYoung_concat, kept, unregistered]

theorem registeredNumber_register (start : Creator) (actions : List (Action σ)) (event : Event) (node : NodeId)
    (nGen : Generation) :
    RegisteredNumber start (actions ++ [.register event]) node nGen ↔
      RegisteredNumber start actions node nGen ∨
        ((start.history actions).creator.window.isAncient event.descriptor = false ∧ event.creator = node) ∧
          event.nGen = some nGen := by
  simp only [RegisteredNumber, registeredYoung_concat, Action.register.injEq]
  constructor
  · rintro ⟨other, ⟨rfl, young⟩ | ⟨_, earlier⟩, created, number⟩
    · exact Or.inr ⟨⟨young, created⟩, number⟩
    · exact Or.inl ⟨other, earlier, created, number⟩
  · rintro (⟨other, earlier, created, number⟩ | ⟨⟨young, created⟩, number⟩)
    · exact ⟨other, Or.inr ⟨by simp, earlier⟩, created, number⟩
    · exact ⟨event, Or.inl ⟨rfl, young⟩, created, number⟩

theorem isHighest_latest (seat : Seat) (mode : AncientMode) (settings : CreationSettings) (actions : List (Action σ))
    {node : NodeId} (member : seat.roster.contains node = true) (other : node ≠ seat.node) :
    let start := Creator.start seat mode settings
    Tipset.IsHighest (RegisteredNumber start actions node)
      ((start.history actions).creator.ancestry.latestFor seat.roster node) := by
  intro start
  induction actions using List.reverseRecOn with
  | nil =>
      have nothing : (start.history ([] : List (Action σ))).creator.ancestry.latestFor seat.roster node = none :=
        Tipset.tip_empty seat.roster node
      rw [nothing]
      rintro nGen ⟨_, ⟨before, since, impossible, _⟩, _⟩
      simp at impossible
  | append_singleton actions action ih =>
      have stepped : Stepped seat mode (start.history actions).creator := stepped_history seat mode settings actions
      rw [history_concat]
      cases action with
      | register event =>
          simp only [Chronicle.next, stepped.latestFor_register member other event]
          -- The tip rises under the condition under which the event counts as registered.
          split
          · rename_i heard
            apply (ih.higher (Tipset.isHighest_self event.nGen)).congr
            intro nGen
            rw [registeredNumber_register, and_iff_right heard]
          · rename_i unheard
            apply ih.congr
            intro nGen
            rw [registeredNumber_register, or_iff_left fun both => unheard both.1]
      | install window => exact ih.congr fun nGen => (registeredNumber_of_keeping (by simp) (by simp) _ _ _ _).symm
      | attempt surroundings now supply =>
          rw [creator_next_attempt, Ancestry.latestFor, latest_attempt]
          exact ih.congr fun nGen => (registeredNumber_of_keeping (by simp) (by simp) _ _ _ _).symm
      | clear =>
          have nothing : ((start.history actions).next (.clear : Action σ)).creator.ancestry.latestFor seat.roster node =
              none := by
            simp only [Chronicle.next, clear, stepped.seated]
            exact Tipset.tip_empty seat.roster node
          rw [nothing]
          rintro nGen ⟨_, registered, _⟩
          simp [registeredYoung_concat] at registered

theorem latest_dominates_snapshot (seat : Seat) (mode : AncientMode) (settings : CreationSettings)
    (actions : List (Action σ)) :
    let creator := ((Creator.start seat mode settings).history actions).creator
    creator.ancestry.latest.Dominates seat.roster creator.progress.snapshot := by
  intro creator
  induction actions using List.reverseRecOn with
  | nil => exact Tipset.dominates_empty _ _
  | append_singleton actions action ih =>
      have stepped := stepped_history seat mode settings actions
      simp only [creator, history_concat]
      rcases Chronicle.next_snapshot ((Creator.start seat mode settings).history actions) action with
        same | dropped | ⟨descriptor, tracked⟩
      · by_cases cleared : action = .clear
        · subst cleared
          simp only [Chronicle.next, clear, stepped.seated]
          exact Tipset.dominates_empty _ _
        · rw [same]
          exact (stepped.dominates_latest_next cleared).trans ih
      · rw [dropped, stepped.seated]
        exact Tipset.dominates_empty _ _
      · exact (stepped.next action).topped.above descriptor _ tracked

/-- In every state that a run reaches, the highest number kept for another member is the highest of its events that
were registered since the last clearing and were not ancient then, and nothing if there is none; and no member has a
higher tip in a tipset that is tracked, or in the snapshot. -/
theorem latest_numbers_dominate_all_tipsets (seat : Seat) (mode : AncientMode) (settings : CreationSettings)
    (actions : List (Action σ)) :
    let start := Creator.start seat mode settings
    let creator := (start.history actions).creator
    (∀ node, seat.roster.contains node = true → node ≠ seat.node →
      Tipset.IsHighest (RegisteredNumber start actions node) (creator.ancestry.latestFor seat.roster node)) ∧
      (∀ descriptor tipset, creator.ancestry.tipset? descriptor = some tipset →
        creator.ancestry.latest.Dominates seat.roster tipset) ∧
      creator.ancestry.latest.Dominates seat.roster creator.progress.snapshot := by
  intro start creator
  refine ⟨?_, ?_, latest_dominates_snapshot seat mode settings actions⟩
  · intro node member other
    exact isHighest_latest seat mode settings actions member other
  · exact (stepped_history seat mode settings actions).topped.above

def fadingRun : List (Action Unit) :=
  let known := Ancestry.sampleEvent 1 [] 1 6
  [.attempt silent .epoch (), .register (Ancestry.sampleEvent 1 [] 1 8), .clear, .attempt silent .epoch (),
    .register known, .register (Ancestry.sampleEvent 2 [known.descriptor] 1 7), .attempt silent .epoch (),
    .install ⟨1, 2, 2, .birthRoundThreshold⟩, .register (Ancestry.sampleEvent 1 [] 1 9),
    .register (Ancestry.sampleEvent 2 [] 2 3)]

theorem fadingRun_keeps_highest_numbers :
    let start := Creator.start quartetSeat .birthRoundThreshold .default
    let creator := (start.history fadingRun).creator
    creator.ancestry.tipset? (Ancestry.sampleEvent 1 [] 1 6).descriptor = none ∧
      Tipset.IsHighest (RegisteredNumber start fadingRun ⟨1⟩) (some 6) ∧
      Tipset.IsHighest (RegisteredNumber start fadingRun ⟨2⟩) (some 7) ∧
      Tipset.IsHighest (RegisteredNumber start fadingRun ⟨3⟩) none ∧
      creator.progress.snapshot.tips = [none, some 6, some 7, none] ∧
      creator.ancestry.latest.Dominates quartetSeat.roster creator.progress.snapshot := by
  have facts :
      let creator := ((Creator.start quartetSeat .birthRoundThreshold .default).history fadingRun).creator
      creator.ancestry.tipset? (Ancestry.sampleEvent 1 [] 1 6).descriptor = none ∧
        creator.ancestry.latestFor quartetSeat.roster ⟨1⟩ = some 6 ∧
        creator.ancestry.latestFor quartetSeat.roster ⟨2⟩ = some 7 ∧
        creator.ancestry.latestFor quartetSeat.roster ⟨3⟩ = none ∧
        creator.progress.snapshot.tips = [none, some 6, some 7, none] := by
    decide +kernel
  obtain ⟨forgotten, first, second, third, snapshot⟩ := facts
  obtain ⟨highest, _, dominates⟩ :=
    latest_numbers_dominate_all_tipsets quartetSeat .birthRoundThreshold .default fadingRun
  have registered : ∀ node tip, quartetSeat.roster.contains node = true → node ≠ quartetSeat.node →
      ((Creator.start quartetSeat .birthRoundThreshold .default).history fadingRun).creator.ancestry.latestFor
        quartetSeat.roster node = tip →
      Tipset.IsHighest (RegisteredNumber (.start quartetSeat .birthRoundThreshold .default) fadingRun node) tip := by
    rintro node _ member other rfl
    exact highest node member other
  exact ⟨forgotten, registered ⟨1⟩ _ (by decide) (by decide) first, registered ⟨2⟩ _ (by decide) (by decide) second,
    registered ⟨3⟩ _ (by decide) (by decide) third, snapshot, dominates⟩

end Creator

end Hashgraph
