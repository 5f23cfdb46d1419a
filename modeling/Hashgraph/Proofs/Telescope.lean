import Mathlib.Algebra.Ring.Nat
import Hashgraph.Proofs.Branches
import Hashgraph.Proofs.Improvement

/-! What the recorded events of a node add up to. While every own event is built on the one before, and that is
still tracked, the improvements since the last snapshot have as their sum what the latest own event is ahead of the
snapshot; and a snapshot is replaced just when this sum and the node's own weight are a supermajority. -/

namespace Hashgraph

namespace Advancement

/-- The total weight of some advancements, not cut off at the end of the words. -/
def weightSum (gains : List Advancement) : Nat := (gains.map fun gain => gain.weight.toNat).sum

def countSum (gains : List Advancement) : Nat := (gains.map fun gain => gain.zeroWeightCount.toNat).sum

@[simp] theorem weightSum_concat (gains : List Advancement) (gain : Advancement) :
    weightSum (gains ++ [gain]) = weightSum gains + gain.weight.toNat := by
  simp [weightSum]

@[simp] theorem countSum_concat (gains : List Advancement) (gain : Advancement) :
    countSum (gains ++ [gain]) = countSum gains + gain.zeroWeightCount.toNat := by
  simp [countSum]

theorem weight_add_minus {whole part : Advancement} (bound : part.weight ≤ whole.weight) :
    part.weight.toNat + (whole.minus part).weight.toNat = whole.weight.toNat := by
  rw [UInt64.le_iff_toNat_le] at bound
  simp only [minus, toNat_saturatingSub]
  omega

theorem count_add_minus {whole part : Advancement} (bound : part.zeroWeightCount ≤ whole.zeroWeightCount) :
    part.zeroWeightCount.toNat + (whole.minus part).zeroWeightCount.toNat = whole.zeroWeightCount.toNat := by
  rw [UInt64.le_iff_toNat_le] at bound
  simp only [minus, toNat_saturatingSub]
  omega

end Advancement

namespace Progress

theorem isDecisive_iff (seat : Seat) (advancement : Advancement) :
    isDecisive seat advancement = true ↔
      seat.roster.total.toNat * 2 < (advancement.weight.toNat + seat.weight.toNat) * 3 := by
  have word := seat.roster.total.toNat_lt_size
  unfold isDecisive isSupermajority
  rw [toNat_saturatingAdd, decide_eq_true_eq]
  simp only [UInt64.size] at word ⊢
  omega

theorem record?_of_tracked {ancestry : Ancestry} {descriptor : EventDescriptor} {tipset : Tipset}
    (progress : Progress) (seat : Seat) (childless : ChildlessEvents) (tracked : ancestry.tipset? descriptor = some tipset) :
    let advancement := Tipset.advancement seat.roster seat.node progress.snapshot tipset
    ∃ step, progress.record? seat ancestry childless descriptor = some step ∧
      step.improvement = advancement.minus progress.previous ∧
      step.replaced = isDecisive seat advancement ∧
      step.progress.snapshot = (if step.replaced then tipset else progress.snapshot) ∧
      step.progress.previous = if step.replaced then .zero else advancement := by
  intro advancement
  rw [record?, tracked, Option.map_some]
  refine ⟨_, rfl, ?_⟩
  simp only [advancement]
  split
  · rename_i decided
    exact ⟨rfl, decided.symm, rfl, rfl⟩
  · rename_i undecided
    exact ⟨rfl, by simpa using undecided, rfl, rfl⟩

end Progress

/-- Where a node stands with its own events: there is none, the latest is tracked and has yet to be recorded, or it
has been recorded. -/
inductive Standing where
  | nothing
  | tracked (descriptor : EventDescriptor)
  | recorded (descriptor : EventDescriptor)
deriving DecidableEq

namespace Standing

/-- Whether an event with these parents may follow: the one before is recorded, is a parent, and is tracked. -/
def MayBeFollowed (ancestry : Ancestry) (parents : List EventDescriptor) : Standing → Prop
  | .nothing => True
  | .tracked _ => False
  | .recorded last => last ∈ parents ∧ (ancestry.tipset? last).isSome = true

instance (ancestry : Ancestry) (parents : List EventDescriptor) :
    (standing : Standing) → Decidable (standing.MayBeFollowed ancestry parents)
  | .nothing => isTrue trivial
  | .tracked _ => isFalse id
  | .recorded last => inferInstanceAs (Decidable (last ∈ parents ∧ (ancestry.tipset? last).isSome = true))

def IsTracked : Standing → Prop
  | .tracked _ => True
  | _ => False

instance : (standing : Standing) → Decidable standing.IsTracked
  | .nothing => isFalse id
  | .tracked _ => isTrue trivial
  | .recorded _ => isFalse id

end Standing

structure Ledger where
  ancestry : Ancestry
  childless : ChildlessEvents
  progress : Progress
  standing : Standing
  gains : List Advancement

namespace Ledger

open Creator (NotAhead)

inductive Step where
  | hear (event : Event)
  | tend (step : ChildlessEvents.Step)
  | install (window : EventWindow)
  | track (descriptor : EventDescriptor) (parents : List EventDescriptor)
  | record

def start (roster : Roster) (mode : AncientMode) : Ledger :=
  ⟨.start roster mode, .empty, .start roster, .nothing, []⟩

/-- An own event that has been forgotten before it is recorded cannot be recorded any more. -/
def recordLatest (seat : Seat) (ledger : Ledger) (descriptor : EventDescriptor) : Ledger :=
  match ledger.progress.record? seat ledger.ancestry ledger.childless descriptor with
  | some step =>
      { ledger with
        progress := step.progress
        standing := .recorded descriptor
        gains := if step.replaced then [] else ledger.gains ++ [step.improvement] }
  | none => ledger

def perform (seat : Seat) (ledger : Ledger) : Step → Ledger
  | .hear event => { ledger with ancestry := (ledger.ancestry.addPeerEvent seat.roster event).2 }
  | .tend step => { ledger with childless := ledger.childless.perform step }
  | .install window => { ledger with ancestry := ledger.ancestry.setWindow window }
  | .track descriptor parents =>
      { ledger with
        ancestry := (ledger.ancestry.addSelfEvent seat.roster descriptor parents).2
        standing := .tracked descriptor }
  | .record =>
      match ledger.standing with
      | .tracked descriptor => ledger.recordLatest seat descriptor
      | _ => ledger

/-- Only events of others are heard. An own event is not ancient when it comes, so that it is tracked, and each is
recorded once. -/
def Allows (seat : Seat) (ledger : Ledger) : Step → Prop
  | .hear event => event.creator ≠ seat.node
  | .tend _ => True
  | .install _ => True
  | .track descriptor parents =>
      descriptor.creator = seat.node ∧ ledger.ancestry.window.isAncient descriptor = false ∧
        ledger.standing.MayBeFollowed ledger.ancestry parents
  | .record => ledger.standing.IsTracked

instance (seat : Seat) (ledger : Ledger) : (step : Step) → Decidable (ledger.Allows seat step)
  | .hear event => inferInstanceAs (Decidable (event.creator ≠ seat.node))
  | .tend _ => isTrue trivial
  | .install _ => isTrue trivial
  | .track descriptor parents =>
      inferInstanceAs (Decidable (descriptor.creator = seat.node ∧ ledger.ancestry.window.isAncient descriptor = false ∧
        ledger.standing.MayBeFollowed ledger.ancestry parents))
  | .record => inferInstanceAs (Decidable ledger.standing.IsTracked)

def Orderly (seat : Seat) : Ledger → List Step → Prop
  | _, [] => True
  | ledger, step :: rest => ledger.Allows seat step ∧ Orderly seat (ledger.perform seat step) rest

instance (seat : Seat) : (ledger : Ledger) → (steps : List Step) → Decidable (Orderly seat ledger steps)
  | _, [] => isTrue trivial
  | ledger, step :: rest =>
      have := instDecidableOrderly seat (ledger.perform seat step) rest
      inferInstanceAs (Decidable (ledger.Allows seat step ∧ Orderly seat (ledger.perform seat step) rest))

def after (seat : Seat) (mode : AncientMode) (steps : List Step) : Ledger :=
  steps.foldl (perform seat) (start seat.roster mode)

/-! ### The balance -/

def Measures (seat : Seat) (ledger : Ledger) (inner : Tipset) : Prop :=
  match ledger.standing with
  | .nothing => inner = .empty seat.roster
  | .tracked event => event.creator = seat.node ∧
      ∀ tipset, ledger.ancestry.tipset? event = some tipset → NotAhead seat inner tipset
  | .recorded event => event.creator = seat.node ∧
      ∀ tipset, ledger.ancestry.tipset? event = some tipset → tipset = inner

structure Balanced (seat : Seat) (ledger : Ledger) : Prop where
  measured : ∃ inner, ledger.Measures seat inner ∧
    ledger.progress.previous = Tipset.advancement seat.roster seat.node ledger.progress.snapshot inner
  weight : Advancement.weightSum ledger.gains = ledger.progress.previous.weight.toNat
  count : Advancement.countSum ledger.gains = ledger.progress.previous.zeroWeightCount.toNat

theorem Balanced.start (seat : Seat) (mode : AncientMode) : Balanced seat (start seat.roster mode) where
  measured := ⟨.empty seat.roster, rfl, (Tipset.advancement_self _ _ _).symm⟩
  weight := rfl
  count := rfl

theorem Balanced.of_ancestry {seat : Seat} {before : Ledger} (balanced : Balanced seat before) {after : Ledger}
    (progress : after.progress = before.progress) (standing : after.standing = before.standing)
    (gains : after.gains = before.gains)
    (kept : ∀ event tipset, event.creator = seat.node → after.ancestry.tipset? event = some tipset →
      before.ancestry.tipset? event = some tipset) : Balanced seat after where
  measured := by
    obtain ⟨inner, measures, previous⟩ := balanced.measured
    refine ⟨inner, ?_, progress ▸ previous⟩
    unfold Measures at measures ⊢
    rw [standing]
    cases found : before.standing with
    | nothing => simpa [found] using measures
    | tracked event | recorded event =>
        simp only [found] at measures ⊢
        exact ⟨measures.1, fun tipset tracked => measures.2 tipset (kept event tipset measures.1 tracked)⟩
  weight := by rw [gains, progress, balanced.weight]
  count := by rw [gains, progress, balanced.count]

/-- A new own event is nowhere behind what was measured last, because it merges the tipset of its self-parent. -/
theorem Balanced.track {seat : Seat} {ledger : Ledger} (balanced : Balanced seat ledger)
    {descriptor : EventDescriptor} {parents : List EventDescriptor}
    (allowed : ledger.Allows seat (.track descriptor parents)) :
    Balanced seat (ledger.perform seat (.track descriptor parents)) where
  measured := by
    obtain ⟨inner, measures, previous⟩ := balanced.measured
    obtain ⟨own, young, follows⟩ := allowed
    refine ⟨inner, ⟨own, ?_⟩, previous⟩
    intro tipset tracked node different
    change (ledger.ancestry.receive seat.roster (.own descriptor parents)).2.tipset? descriptor = some tipset at tracked
    rw [Ancestry.tipset?_receive, if_pos ⟨rfl, young⟩] at tracked
    cases tracked
    have merged : (ledger.ancestry.receive seat.roster (.own descriptor parents)).1.tip seat.roster node =
        (ledger.ancestry.mergedParents seat.roster parents).tip seat.roster node := by
      refine (Ancestry.tip_addSelfEvent _ _ _ _).trans (if_neg ?_)
      rw [own]
      exact different.symm
    rw [merged]
    unfold Measures at measures
    cases standing : ledger.standing with
    | nothing =>
        simp only [standing] at measures
        subst measures
        simp
    | tracked event => simp [standing, Standing.MayBeFollowed] at follows
    | recorded last =>
        simp only [standing, Standing.MayBeFollowed] at measures follows
        obtain ⟨self, known⟩ := Option.isSome_iff_exists.mp follows.2
        rw [← measures.2 self known]
        exact Ancestry.height_tip_le_mergedParents seat.roster follows.1 known node
  weight := balanced.weight
  count := balanced.count

/-- What the accumulator holds is part of what the event that is to be recorded is ahead, and the improvement is
the rest. -/
theorem Balanced.sums {seat : Seat} {ledger : Ledger} (balanced : Balanced seat ledger) {event : EventDescriptor}
    {tipset : Tipset} (standing : ledger.standing = .tracked event)
    (tracked : ledger.ancestry.tipset? event = some tipset) :
    let advancement := Tipset.advancement seat.roster seat.node ledger.progress.snapshot tipset
    let improvement := advancement.minus ledger.progress.previous
    ledger.progress.previous.weight ≤ advancement.weight ∧
      ledger.progress.previous.zeroWeightCount ≤ advancement.zeroWeightCount ∧
      Advancement.weightSum (ledger.gains ++ [improvement]) = advancement.weight.toNat ∧
      Advancement.countSum (ledger.gains ++ [improvement]) = advancement.zeroWeightCount.toNat := by
  intro advancement improvement
  obtain ⟨inner, measures, previous⟩ := balanced.measured
  simp only [Measures, standing] at measures
  have nested : ∀ node, Tipset.advances seat.roster seat.node ledger.progress.snapshot inner node = true →
      Tipset.advances seat.roster seat.node ledger.progress.snapshot tipset node = true := by
    intro node moved
    rw [Tipset.advances_iff] at moved ⊢
    exact ⟨moved.1, moved.2.trans_le (measures.2 tipset tracked node moved.1)⟩
  obtain ⟨weight, count, _⟩ := Tipset.advancement_minus seat.member nested
  rw [← previous] at weight count
  refine ⟨weight, count, ?_, ?_⟩
  · rw [Advancement.weightSum_concat, balanced.weight]
    exact Advancement.weight_add_minus weight
  · rw [Advancement.countSum_concat, balanced.count]
    exact Advancement.count_add_minus count

theorem Balanced.recordLatest {seat : Seat} {ledger : Ledger} (balanced : Balanced seat ledger)
    {event : EventDescriptor} (standing : ledger.standing = .tracked event) :
    Balanced seat (ledger.recordLatest seat event) := by
  obtain ⟨inner, measures, _⟩ := balanced.measured
  simp only [Measures, standing] at measures
  cases tracked : ledger.ancestry.tipset? event with
  | none =>
      have missing : ledger.progress.record? seat ledger.ancestry ledger.childless event = none := by
        simp [Progress.record?, tracked]
      simpa only [Ledger.recordLatest, missing] using balanced
  | some tipset =>
      obtain ⟨_, _, weight, count⟩ := balanced.sums standing tracked
      obtain ⟨step, recorded, improvement, _, snapshot, previous⟩ :=
        ledger.progress.record?_of_tracked seat ledger.childless tracked
      simp only [Ledger.recordLatest, recorded]
      have latest : ∀ other, ledger.ancestry.tipset? event = some other → other = tipset := by
        intro other found
        rw [tracked] at found
        exact (Option.some.inj found).symm
      cases replaced : step.replaced with
      | true =>
          simp only [replaced, if_true] at snapshot previous
          refine ⟨⟨tipset, ⟨measures.1, latest⟩, ?_⟩, ?_, ?_⟩
          · simp only [snapshot, previous, Tipset.advancement_self]
          · simp only [previous, if_true]
            rfl
          · simp only [previous, if_true]
            rfl
      | false =>
          simp only [replaced, Bool.false_eq_true, if_false] at snapshot previous
          refine ⟨⟨tipset, ⟨measures.1, latest⟩, ?_⟩, ?_, ?_⟩
          · simp only [snapshot, previous]
          · simpa only [improvement, previous, Bool.false_eq_true, if_false] using weight
          · simpa only [improvement, previous, Bool.false_eq_true, if_false] using count

theorem Balanced.perform {seat : Seat} {ledger : Ledger} (balanced : Balanced seat ledger) {step : Step}
    (allowed : ledger.Allows seat step) : Balanced seat (ledger.perform seat step) := by
  cases step with
  | hear event =>
      refine balanced.of_ancestry rfl rfl rfl ?_
      intro own tipset mine tracked
      change (ledger.ancestry.receive seat.roster (.peer event)).2.tipset? own = some tipset at tracked
      rw [Ancestry.tipset?_receive, if_neg] at tracked
      · exact tracked
      · rintro ⟨same, _⟩
        have other : event.descriptor.creator ≠ seat.node := allowed
        apply other
        rw [← mine, ← same]
        rfl
  | tend step => exact balanced.of_ancestry rfl rfl rfl fun _ _ _ tracked => tracked
  | install window =>
      refine balanced.of_ancestry rfl rfl rfl ?_
      intro own tipset _ tracked
      simp only [Ledger.perform, Ancestry.tipset?_setWindow, Option.filter_eq_some_iff] at tracked
      exact tracked.1
  | track descriptor parents => exact balanced.track allowed
  | record =>
      change ledger.standing.IsTracked at allowed
      cases standing : ledger.standing with
      | nothing => simp [standing, Standing.IsTracked] at allowed
      | tracked event =>
          simp only [Ledger.perform, standing]
          exact balanced.recordLatest standing
      | recorded event => simp [standing, Standing.IsTracked] at allowed

theorem balanced_foldl {seat : Seat} {ledger : Ledger} (balanced : Balanced seat ledger) {steps : List Step}
    (orderly : Orderly seat ledger steps) : Balanced seat (steps.foldl (perform seat) ledger) := by
  induction steps generalizing ledger with
  | nil => exact balanced
  | cons step rest ih => exact ih (balanced.perform orderly.1) orderly.2

/-- In every orderly run, an own event that is still tracked can be recorded. Its improvement and those before it
since the last snapshot add up to what the event is ahead of the snapshot, no difference being cut off; and the
event's tipset becomes the snapshot, with nothing accumulated, just when this sum and the node's own weight are a
supermajority. -/
theorem improvements_telescope (seat : Seat) (mode : AncientMode) (steps : List Step)
    (orderly : Orderly seat (start seat.roster mode) steps) {event : EventDescriptor} {tipset : Tipset}
    (standing : (after seat mode steps).standing = .tracked event)
    (tracked : (after seat mode steps).ancestry.tipset? event = some tipset) :
    let ledger := after seat mode steps
    let advancement := Tipset.advancement seat.roster seat.node ledger.progress.snapshot tipset
    ∃ step, ledger.progress.record? seat ledger.ancestry ledger.childless event = some step ∧
      Advancement.weightSum (ledger.gains ++ [step.improvement]) = advancement.weight.toNat ∧
      Advancement.countSum (ledger.gains ++ [step.improvement]) = advancement.zeroWeightCount.toNat ∧
      ledger.progress.previous.weight ≤ advancement.weight ∧
      ledger.progress.previous.zeroWeightCount ≤ advancement.zeroWeightCount ∧
      (step.replaced = true ↔ seat.roster.total.toNat * 2 <
        (Advancement.weightSum (ledger.gains ++ [step.improvement]) + seat.weight.toNat) * 3) ∧
      step.progress.snapshot = (if step.replaced then tipset else ledger.progress.snapshot) ∧
      step.progress.previous = if step.replaced then .zero else advancement := by
  intro ledger advancement
  have balanced : Balanced seat ledger := balanced_foldl (.start seat mode) orderly
  obtain ⟨weightBound, countBound, weight, count⟩ := balanced.sums standing tracked
  obtain ⟨step, recorded, improvement, replaced, snapshot, previous⟩ :=
    ledger.progress.record?_of_tracked seat ledger.childless tracked
  rw [← improvement] at weight count
  refine ⟨step, recorded, weight, count, weightBound, countBound, ?_, snapshot, previous⟩
  rw [replaced, Progress.isDecisive_iff, weight]

def steadySteps : List Step :=
  let own (generation : Generation) : EventDescriptor := ⟨⟨0⟩, 1, generation, .zero⟩
  let second := Ancestry.sampleEvent 2 [] 1 0
  let first := Ancestry.sampleEvent 1 [second.descriptor] 1 0
  let third := Ancestry.sampleEvent 3 [] 2 0
  let fourth := Ancestry.sampleEvent 2 [third.descriptor] 2 1
  let fifth := Ancestry.sampleEvent 1 [fourth.descriptor] 2 1
  [.track (own 0) [], .record, .hear second, .hear first, .track (own 1) [own 0, first.descriptor], .hear third,
    .tend (.add third), .record, .track (own 2) [own 1, third.descriptor], .record, .hear fourth, .hear fifth,
    .install ⟨1, 2, 1, .birthRoundThreshold⟩, .track (own 3) [own 2, fifth.descriptor]]

theorem steadySteps_telescope :
    let ledger := after Creator.quartetSeat .birthRoundThreshold steadySteps
    let event : EventDescriptor := ⟨⟨0⟩, 1, 3, .zero⟩
    ∃ step, ledger.progress.record? Creator.quartetSeat ledger.ancestry ledger.childless event = some step ∧
      ledger.gains = [⟨0, 1⟩] ∧ Advancement.weightSum (ledger.gains ++ [step.improvement]) = 2 ∧
      Advancement.countSum (ledger.gains ++ [step.improvement]) = 1 ∧ step.replaced = true ∧
      step.progress.previous = .zero := by
  have facts :
      let ledger := after Creator.quartetSeat .birthRoundThreshold steadySteps
      let event : EventDescriptor := ⟨⟨0⟩, 1, 3, .zero⟩
      Orderly Creator.quartetSeat (start Creator.quartetSeat.roster .birthRoundThreshold) steadySteps ∧
        ledger.standing = .tracked event ∧ ledger.gains = [⟨0, 1⟩] ∧
        ∃ tipset ∈ ledger.ancestry.tipset? event,
          Tipset.advancement Creator.quartetSeat.roster Creator.quartetSeat.node ledger.progress.snapshot tipset =
            ⟨2, 1⟩ := by
    decide +kernel
  obtain ⟨orderly, standing, gains, tipset, tracked, ahead⟩ := facts
  rw [Option.mem_def] at tracked
  obtain ⟨step, recorded, weight, count, _, _, decided, _, previous⟩ :=
    improvements_telescope Creator.quartetSeat .birthRoundThreshold steadySteps orderly standing tracked
  rw [ahead] at weight count
  have replaced : step.replaced = true := by
    rw [decided, weight]
    decide
  rw [if_pos replaced] at previous
  exact ⟨step, recorded, gains, weight, count, replaced, previous⟩

end Ledger

end Hashgraph
