import Mathlib.Data.List.Induction
import Mathlib.Data.List.Nodup
import Hashgraph.Proofs.HighestTips

/-! How long a tipset is kept. It is there from the addition of its event until a window makes the event ancient,
and comes back under no other window; additions of other events leave it as it is. -/

namespace Hashgraph

namespace Ancestry

def Step.arrival? : Step → Option Arrival
  | .add arrival => some arrival
  | _ => none

def Step.window? : Step → Option EventWindow
  | .install window => some window
  | _ => none

def added (steps : List Step) : List EventDescriptor := (steps.filterMap Step.arrival?).map Arrival.descriptor

def installed (steps : List Step) : List EventWindow := steps.filterMap Step.window?

/-- The window in force behind the steps before, and all those that were installed since. -/
def windowsFrom (mode : AncientMode) (before since : List Step) : List EventWindow :=
  (installed before).getLastD (.genesis mode) :: installed since

def Step.Spares (descriptor : EventDescriptor) : Step → Prop
  | .add arrival => arrival.descriptor ≠ descriptor
  | .install window => window.isAncient descriptor = false
  | .clear => False

theorem Fresh.next {record : Record} (fresh : record.ancestry.Fresh) (roster : Roster) (mode : AncientMode)
    (step : Step) : (record.next roster mode step).ancestry.Fresh := by
  cases step with
  | add arrival => exact fresh.receive roster arrival
  | install window => exact .setWindow window
  | clear => exact .start roster mode

theorem fresh_ofSteps (roster : Roster) (mode : AncientMode) (steps : List Step) :
    (Record.ofSteps roster mode steps).ancestry.Fresh := by
  apply Record.ofSteps_induction roster mode steps (motive := fun record => record.ancestry.Fresh)
  · exact .start roster mode
  · exact fun _ fresh step _ => fresh.next roster mode step

theorem Fresh.tipset?_next_eq_some_iff {record : Record} (fresh : record.ancestry.Fresh) (roster : Roster)
    (mode : AncientMode) (step : Step) (descriptor : EventDescriptor) (tipset : Tipset) :
    (record.next roster mode step).ancestry.tipset? descriptor = some tipset ↔
      (∃ arrival, step = .add arrival ∧ arrival.descriptor = descriptor ∧
        record.ancestry.window.isAncient descriptor = false ∧
        tipset = (record.ancestry.receive roster arrival).1) ∨
      (step.Spares descriptor ∧ record.ancestry.tipset? descriptor = some tipset) := by
  cases step with
  | add arrival =>
      simp only [Record.next, tipset?_receive, Step.Spares, Step.add.injEq, exists_eq_left']
      by_cases same : arrival.descriptor = descriptor
      · subst same
        cases ancient : record.ancestry.window.isAncient arrival.descriptor with
        | false => simp [eq_comm]
        | true =>
            -- Nothing that is ancient is tracked, so that a rejected event was not there before either.
            have absent : record.ancestry.tipset? arrival.descriptor ≠ some tipset := fun found =>
              Bool.false_ne_true ((fresh _ _ found).symm.trans ancient)
            simp [absent]
      · simp [same]
  | install window =>
      simp [Record.next, tipset?_setWindow, Step.Spares, Option.filter_eq_some_iff, and_comm]
  | clear => simp [Record.next, Step.Spares]

theorem eq_append_cons_concat {α : Type} {items before since : List α} {last item : α}
    (whole : items ++ [last] = before ++ item :: since) :
    (before = items ∧ item = last ∧ since = []) ∨
      ∃ shorter, since = shorter ++ [last] ∧ items = before ++ item :: shorter := by
  rcases List.eq_nil_or_concat since with rfl | ⟨shorter, final, rfl⟩
  · obtain ⟨front, back⟩ := List.append_inj' whole rfl
    exact Or.inl ⟨front.symm, (List.cons.inj back).1.symm, rfl⟩
  · rw [List.concat_eq_append, ← List.cons_append, ← List.append_assoc] at whole
    obtain ⟨front, back⟩ := List.append_inj' whole rfl
    exact Or.inr ⟨shorter, by rw [(List.cons.inj back).1, List.concat_eq_append], front⟩

/-- An event is tracked just if the steps behind its last addition, at which it was young, have spared it; its
tipset is the one of that addition. -/
theorem tipset?_ofSteps_eq_some_iff (roster : Roster) (mode : AncientMode) (steps : List Step)
    (descriptor : EventDescriptor) (tipset : Tipset) :
    (Record.ofSteps roster mode steps).ancestry.tipset? descriptor = some tipset ↔
      ∃ before arrival since, steps = before ++ .add arrival :: since ∧ arrival.descriptor = descriptor ∧
        (Record.ofSteps roster mode before).ancestry.window.isAncient descriptor = false ∧
        tipset = ((Record.ofSteps roster mode before).ancestry.receive roster arrival).1 ∧
        ∀ step ∈ since, step.Spares descriptor := by
  induction steps using List.reverseRecOn with
  | nil => simp [Record.ofSteps]
  | append_singleton steps step ih =>
      rw [Record.ofSteps_concat, (fresh_ofSteps roster mode steps).tipset?_next_eq_some_iff, ih]
      constructor
      · rintro (⟨arrival, rfl, named, young, same⟩ | ⟨spares, before, arrival, since, rfl, named, young, same, spared⟩)
        · exact ⟨steps, arrival, [], rfl, named, young, same, by simp⟩
        · refine ⟨before, arrival, since ++ [step], by simp, named, young, same, ?_⟩
          intro other listed
          rcases List.mem_append.mp listed with earlier | last
          · exact spared other earlier
          · exact List.mem_singleton.mp last ▸ spares
      · rintro ⟨before, arrival, since, whole, named, young, same, spared⟩
        rcases eq_append_cons_concat whole with ⟨rfl, rfl, rfl⟩ | ⟨shorter, rfl, rfl⟩
        · exact Or.inl ⟨arrival, rfl, named, young, same⟩
        · exact Or.inr ⟨spared step (by simp), before, arrival, shorter, rfl, named, young, same,
            fun other listed => spared other (List.mem_append_left _ listed)⟩

theorem window_ofSteps (roster : Roster) (mode : AncientMode) {steps : List Step} (lasting : Step.clear ∉ steps) :
    (Record.ofSteps roster mode steps).ancestry.window = (installed steps).getLastD (.genesis mode) := by
  induction steps using List.reverseRecOn with
  | nil => rfl
  | append_singleton steps step ih =>
      rw [List.mem_append, not_or] at lasting
      rw [Record.ofSteps_concat]
      cases step with
      | add arrival =>
          simp only [Record.next, window_receive, ih lasting.1]
          simp [installed, Step.window?]
      | install window => simp [Record.next, setWindow, installed, Step.window?]
      | clear => simp at lasting

theorem spares_iff {steps : List Step} (lasting : Step.clear ∉ steps) {descriptor : EventDescriptor}
    (once : descriptor ∉ added steps) :
    (∀ step ∈ steps, step.Spares descriptor) ↔ ∀ window ∈ installed steps, window.isAncient descriptor = false := by
  constructor
  · intro spared window listed
    obtain ⟨step, member, found⟩ := List.mem_filterMap.mp listed
    cases step with
    | install other =>
        cases found
        exact spared _ member
    | add arrival => cases found
    | clear => cases found
  · intro young step member
    cases step with
    | add arrival =>
        rintro rfl
        exact once (List.mem_map_of_mem (List.mem_filterMap.mpr ⟨_, member, rfl⟩))
    | install window => exact young window (List.mem_filterMap.mpr ⟨_, member, rfl⟩)
    | clear => exact absurd member lasting

theorem added_split (before since : List Step) (arrival : Arrival) :
    added (before ++ .add arrival :: since) = added before ++ arrival.descriptor :: added since := by
  simp [added, Step.arrival?]

section Once

variable {mode : AncientMode} {steps : List Step} (lasting : Step.clear ∉ steps) (once : (added steps).Nodup)

include lasting once

theorem tipset?_split_iff (roster : Roster) {before since : List Step} {arrival : Arrival}
    (whole : steps = before ++ .add arrival :: since) (tipset : Tipset) :
    (Record.ofSteps roster mode steps).ancestry.tipset? arrival.descriptor = some tipset ↔
      (∀ window ∈ windowsFrom mode before since, window.isAncient arrival.descriptor = false) ∧
        tipset = ((Record.ofSteps roster mode before).ancestry.receive roster arrival).1 := by
  subst whole
  rw [List.mem_append, List.mem_cons, not_or, not_or] at lasting
  rw [added_split, List.nodup_middle, List.nodup_cons, List.mem_append, not_or] at once
  have elsewhere : ∀ (others : List Step) (other : Arrival), other.descriptor = arrival.descriptor →
      arrival.descriptor ∉ added others → Step.add other ∉ others := by
    intro others other same unadded listed
    exact unadded (same ▸ List.mem_map_of_mem (List.mem_filterMap.mpr ⟨_, listed, rfl⟩))
  simp only [windowsFrom, List.forall_mem_cons, ← window_ofSteps roster mode lasting.1]
  rw [tipset?_ofSteps_eq_some_iff, ← spares_iff lasting.2.2 once.1.2]
  constructor
  · rintro ⟨first, other, later, split, named, young, same, spared⟩
    have parts := (List.append_cons_inj_of_notMem (elsewhere before other named once.1.1)
      (elsewhere since other named once.1.2)).mp split
    obtain ⟨rfl, equal, rfl⟩ := parts
    cases equal
    exact ⟨⟨young, spared⟩, same⟩
  · rintro ⟨⟨young, spared⟩, same⟩
    exact ⟨before, arrival, since, rfl, rfl, young, same, spared⟩

end Once

/-- In every run without clearings in which no event is added twice, just those added events are tracked that are
young under the window in force at their addition and under all windows installed since; and the tipset of a
tracked event is the one that its addition gave it. -/
theorem tipsets_stay_while_young (roster : Roster) (mode : AncientMode) (steps : List Step)
    (lasting : Step.clear ∉ steps) (once : (added steps).Nodup) :
    let ancestry := (Record.ofSteps roster mode steps).ancestry
    (∀ descriptor, (ancestry.tipset? descriptor).isSome = true ↔
      ∃ before arrival since, steps = before ++ .add arrival :: since ∧ arrival.descriptor = descriptor ∧
        ∀ window ∈ windowsFrom mode before since, window.isAncient descriptor = false) ∧
      ∀ before arrival since, steps = before ++ .add arrival :: since → ∀ tipset,
        ancestry.tipset? arrival.descriptor = some tipset →
          tipset = ((Record.ofSteps roster mode before).ancestry.receive roster arrival).1 := by
  intro ancestry
  have split := @tipset?_split_iff mode steps lasting once roster
  refine ⟨?_, ?_⟩
  · intro descriptor
    rw [Option.isSome_iff_exists]
    constructor
    · rintro ⟨tipset, found⟩
      obtain ⟨before, arrival, since, whole, rfl, _⟩ := (tipset?_ofSteps_eq_some_iff _ _ _ _ _).mp found
      exact ⟨before, arrival, since, whole, rfl, ((split whole tipset).mp found).1⟩
    · rintro ⟨before, arrival, since, whole, rfl, young⟩
      exact ⟨_, (split whole _).mpr ⟨young, rfl⟩⟩
  · intro before arrival since whole tipset found
    exact ((split whole tipset).mp found).2

def returningArrivals : List Arrival :=
  let old := sampleEvent 1 [] 1 4
  [.peer old, .peer (sampleEvent 2 [old.descriptor] 2 6)]

def returningRun : List Step :=
  [.add returningArrivals[0], .add returningArrivals[1], .install ⟨2, 3, 2, .birthRoundThreshold⟩,
    .install ⟨1, 2, 1, .birthRoundThreshold⟩, .add (.own ⟨⟨0⟩, 2, 2, .zero⟩ (returningArrivals.map Arrival.descriptor))]

theorem returningRun_keeps_the_second_event :
    let ancestry := (Record.ofSteps threeMembers .birthRoundThreshold returningRun).ancestry
    ancestry.tipset? returningArrivals[0].descriptor = none ∧
      ∃ tipset, ancestry.tipset? returningArrivals[1].descriptor = some tipset ∧
        tipset.tips = [none, some 4, some 6] := by
  have facts :
      (added returningRun).Nodup ∧
        (Record.ofSteps threeMembers .birthRoundThreshold returningRun).ancestry.tipset?
          returningArrivals[0].descriptor = none ∧
        (∀ window ∈ windowsFrom .birthRoundThreshold (returningRun.take 1) (returningRun.drop 2),
          window.isAncient returningArrivals[1].descriptor = false) ∧
        ((Record.ofSteps threeMembers .birthRoundThreshold (returningRun.take 1)).ancestry.receive threeMembers
          returningArrivals[1]).1.tips = [none, some 4, some 6] := by
    decide +kernel
  obtain ⟨once, forgotten, young, tips⟩ := facts
  have whole : returningRun = returningRun.take 1 ++ .add returningArrivals[1] :: returningRun.drop 2 := rfl
  obtain ⟨present, same⟩ := tipsets_stay_while_young threeMembers .birthRoundThreshold returningRun
    (by simp [returningRun]) once
  obtain ⟨tipset, found⟩ := Option.isSome_iff_exists.mp ((present _).mpr ⟨_, _, _, whole, rfl, young⟩)
  refine ⟨forgotten, tipset, found, ?_⟩
  rw [same _ _ _ whole tipset found]
  exact tips

end Ancestry

end Hashgraph
