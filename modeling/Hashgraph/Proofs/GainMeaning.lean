import Hashgraph.Proofs.Accumulator

/-! The exact meaning of a theoretical advancement: it counts the members that a candidate moves beyond the
snapshot while the node's own last event does not. Members that an earlier own event moved are left out as long
as every later one was built on a self-parent that was still tracked. -/

namespace Hashgraph

namespace Creator

variable {σ : Type}

theorem notAhead_of_tracked_chain {seat : Seat} {later older : List Creation} {early latest : Creation}
    (nested : (later ++ early :: older).IsChain fun later earlier =>
      later.ParentTracked → NotAhead seat earlier.tipset later.tipset)
    (tracked : ∀ creation ∈ later, creation.ParentTracked)
    (isLatest : (later ++ early :: older).head? = some latest) : NotAhead seat early.tipset latest.tipset := by
  induction later generalizing latest with
  | nil =>
      simp only [List.nil_append, List.head?_cons, Option.some.injEq] at isLatest
      subst isLatest
      exact fun node _ => Nat.le_refl _
  | cons first rest ih =>
      simp only [List.cons_append, List.head?_cons, Option.some.injEq] at isLatest
      subst isLatest
      rw [List.cons_append, List.isChain_cons] at nested
      obtain ⟨next, isNext⟩ : ∃ next, (rest ++ early :: older).head? = some next := by
        cases rest with
        | nil => exact ⟨early, rfl⟩
        | cons second rest => exact ⟨second, rfl⟩
      have before := ih nested.2 (fun creation member => tracked creation (List.mem_cons_of_mem _ member)) isNext
      have step := nested.1 next isNext (tracked first List.mem_cons_self)
      intro node different
      exact Nat.le_trans (before node different) (step node different)

theorem Chained.latest {chronicle : Chronicle} (chained : Chained chronicle) {last : Event}
    (held : chronicle.creator.lastSelfEvent = some last) (made : last ∈ chronicle.creations.map Creation.event) :
    ∃ latest, chronicle.creations.head? = some latest ∧ latest.event = last := by
  cases whole : chronicle.creations with
  | nil => simp [whole] at made
  | cons latest older =>
      have isLatest : chronicle.creations.head? = some latest := by simp [whole]
      have same := chained.held latest isLatest
      rw [held] at same
      exact ⟨latest, rfl, (Option.some.inj same).symm⟩

/-- In every state that a run reaches, with a tracked last event that the node has made since the last clearing,
a theoretical advancement is the weight, and the number without weight, of the members that a tracked candidate
moves and the last event does not. The difference of sums behind it is never cut off. No counted member was
moved by an earlier own event, provided that all own events after it had a tracked self-parent when they were
made. -/
theorem theoretical_counts_fresh_members (seat : Seat) (mode : AncientMode) (settings : CreationSettings)
    (actions : List (Action σ)) {last : Event} {candidate : EventDescriptor} {own other : Tipset}
    (held : ((Creator.start seat mode settings).history actions).creator.lastSelfEvent = some last)
    (made : last ∈ ((Creator.start seat mode settings).history actions).creations.map Creation.event)
    (tracked : ((Creator.start seat mode settings).history actions).creator.ancestry.tipset? last.descriptor =
      some own)
    (known : ((Creator.start seat mode settings).history actions).creator.ancestry.tipset? candidate =
      some other) :
    let chronicle := (Creator.start seat mode settings).history actions
    let creator := chronicle.creator
    let snapshot := creator.progress.snapshot
    let counted := Progress.freshMember seat snapshot own other
    let gain := creator.theoretical [candidate, last.descriptor]
    let whole := Tipset.advancement seat.roster seat.node snapshot
      (creator.ancestry.mergedParents seat.roster [candidate, last.descriptor])
    gain.weight.toNat = seat.roster.weightOf counted ∧
      gain.zeroWeightCount.toNat = seat.roster.weightlessOf counted ∧
      creator.progress.previous.weight ≤ whole.weight ∧
      creator.progress.previous.zeroWeightCount ≤ whole.zeroWeightCount ∧
      ∀ later early older, chronicle.creations = later ++ early :: older →
        (∀ creation ∈ later, creation.ParentTracked) → ∀ node, counted node = true →
          Tipset.isBelow (snapshot.tip seat.roster node) (early.tipset.tip seat.roster node) = false := by
  intro chronicle creator snapshot counted gain whole
  have chained := chained_history (Creator.start seat mode settings) actions
  have measured := measured_history seat mode settings actions
  obtain ⟨latest, isLatest, rfl⟩ := chained.latest held made
  obtain ⟨same, previous, _⟩ := (measured.settled latest isLatest).measured own tracked
  have sums := Progress.theoretical_pair known tracked previous
  have seated : creator.seat = seat := measured.seated
  have gains : gain = creator.progress.theoretical seat creator.ancestry [candidate, latest.event.descriptor] := by
    rw [← seated]
    rfl
  refine ⟨gains ▸ sums.2.2.1, gains ▸ sums.2.2.2, sums.1, sums.2.1, ?_⟩
  intro later early older parts tracks node isCounted
  have nested := measured.nested
  rw [show ((Creator.start seat mode settings).history actions).creations = later ++ early :: older from parts]
    at nested isLatest
  -- A member that an earlier own event had moved would have been moved by the last one too.
  have behind := notAhead_of_tracked_chain nested tracks isLatest
  simp only [counted, Progress.freshMember, Bool.and_eq_true, Bool.not_eq_true', decide_eq_true_eq] at isCounted
  obtain ⟨⟨different, unmoved⟩, _⟩ := isCounted
  rw [Tipset.isBelow_eq_false_iff] at unmoved ⊢
  rw [same] at unmoved
  exact Nat.le_trans (behind node different) unmoved

def sevenSeat : Seat :=
  ⟨⟨(List.range 7).map fun number => ⟨⟨number.toUInt64⟩, 1⟩, 7, by decide, by decide, by decide⟩, ⟨0⟩, by decide⟩

def keepingRun : List (Action Unit) :=
  let third := Ancestry.sampleEvent 3 [] 2 0
  [.attempt silent .epoch (), .register (Ancestry.sampleEvent 1 [] 1 0), .attempt silent .epoch (), .register third,
    .register (Ancestry.sampleEvent 2 [third.descriptor] 2 1)]

theorem keepingRun_counts_two_members :
    let chronicle := (Creator.start sevenSeat .birthRoundThreshold .default).history keepingRun
    let snapshot := chronicle.creator.progress.snapshot
    ∃ last own candidate other, chronicle.creator.lastSelfEvent = some last ∧
      chronicle.creator.ancestry.tipset? last.descriptor = some own ∧
      chronicle.creator.ancestry.tipset? candidate = some other ∧
      sevenSeat.roster.nodes.filter (Progress.freshMember sevenSeat snapshot own other) = [⟨2⟩, ⟨3⟩] ∧
      (chronicle.creator.theoretical [candidate, last.descriptor]).weight.toNat =
        sevenSeat.roster.weightOf (Progress.freshMember sevenSeat snapshot own other) := by
  have facts :
      let chronicle := (Creator.start sevenSeat .birthRoundThreshold .default).history keepingRun
      let snapshot := chronicle.creator.progress.snapshot
      ∃ last ∈ chronicle.creator.lastSelfEvent, last ∈ chronicle.creations.map Creation.event ∧
        ∃ own ∈ chronicle.creator.ancestry.tipset? last.descriptor,
          ∃ other ∈ chronicle.creator.ancestry.tipset?
            (Ancestry.sampleEvent 2 [(Ancestry.sampleEvent 3 [] 2 0).descriptor] 2 1).descriptor,
              sevenSeat.roster.nodes.filter (Progress.freshMember sevenSeat snapshot own other) =
                [⟨2⟩, ⟨3⟩] := by
    decide +kernel
  obtain ⟨last, held, made, own, tracked, other, known, members⟩ := facts
  rw [Option.mem_def] at held tracked known
  have meaning := theoretical_counts_fresh_members sevenSeat .birthRoundThreshold .default keepingRun
    held made tracked known
  exact ⟨last, own, _, other, held, tracked, known, members, meaning.1⟩

def forgettingRun : List (Action Unit) :=
  let third := Ancestry.sampleEvent 3 [] 2 0
  [.attempt silent .epoch (), .register (Ancestry.sampleEvent 1 [] 1 0), .attempt silent .epoch (),
    .install ⟨1, 2, 2, .birthRoundThreshold⟩, .register third,
    .register (Ancestry.sampleEvent 2 [third.descriptor] 2 1), .attempt silent .epoch (),
    .register (Ancestry.sampleEvent 1 [] 2 5)]

/-- Without the condition on self-parents, a member can be counted although an own event since the snapshot has
moved it already. -/
theorem forgotten_parents_let_members_count_again :
    ¬∀ (seat : Seat) (mode : AncientMode) (settings : CreationSettings) (actions : List (Action Unit))
      (last : Event) (candidate : EventDescriptor) (own other : Tipset),
      let chronicle := (Creator.start seat mode settings).history actions
      let snapshot := chronicle.creator.progress.snapshot
      chronicle.creator.lastSelfEvent = some last → last ∈ chronicle.creations.map Creation.event →
        chronicle.creator.ancestry.tipset? last.descriptor = some own →
        chronicle.creator.ancestry.tipset? candidate = some other →
        ∀ early ∈ chronicle.creations, early.before.progress.snapshot = snapshot →
          ∀ node, Progress.freshMember seat snapshot own other node = true →
            Tipset.isBelow (snapshot.tip seat.roster node) (early.tipset.tip seat.roster node) = false := by
  intro claim
  have run := claim sevenSeat .birthRoundThreshold .default forgettingRun
  have facts :
      let chronicle := (Creator.start sevenSeat .birthRoundThreshold .default).history forgettingRun
      let snapshot := chronicle.creator.progress.snapshot
      ∃ last ∈ chronicle.creator.lastSelfEvent, last ∈ chronicle.creations.map Creation.event ∧
        ∃ own ∈ chronicle.creator.ancestry.tipset? last.descriptor,
          ∃ other ∈ chronicle.creator.ancestry.tipset? (Ancestry.sampleEvent 1 [] 2 5).descriptor,
            ∃ early ∈ chronicle.creations, early.before.progress.snapshot = snapshot ∧
              Progress.freshMember sevenSeat snapshot own other ⟨1⟩ = true ∧
              Tipset.isBelow (snapshot.tip sevenSeat.roster ⟨1⟩) (early.tipset.tip sevenSeat.roster ⟨1⟩) = true := by
    decide +kernel
  obtain ⟨last, held, made, own, tracked, other, known, early, member, since, counted, moved⟩ := facts
  rw [Option.mem_def] at held tracked known
  have unmoved := run last _ own other held made tracked known early member since ⟨1⟩ counted
  rw [moved] at unmoved
  exact absurd unmoved (by simp)

end Creator

end Hashgraph
