import Hashgraph.Proofs.Tallies

/-! A cleared creator is as good as a new one. It keeps its random state and its counters, and the counters decide
nothing: from a clearing on, it answers and counts as a new creator does that draws the same random numbers. -/

namespace Hashgraph

def Tally.plus (tally more : Tally) : Tally :=
  ⟨tally.created + more.created, tally.noParent + more.noParent, tally.ancient + more.ancient⟩

theorem Tally.plus_assoc (first second third : Tally) :
    (first.plus second).plus third = first.plus (second.plus third) := by
  simp [plus, Nat.add_assoc]

namespace CreationCounters

theorem tally_recordCreated (counters : CreationCounters) (genesis : Bool) (ratio : Float) :
    (counters.recordCreated genesis ratio).tally = counters.tally.plus ⟨1, 0, 0⟩ := rfl

theorem tally_recordRefusedNoParent (counters : CreationCounters) :
    counters.recordRefusedNoParent.tally = counters.tally.plus ⟨0, 1, 0⟩ := rfl

theorem tally_recordRefusedAncient (counters : CreationCounters) :
    counters.recordRefusedAncient.tally = counters.tally.plus ⟨0, 0, 1⟩ := rfl

theorem tally_change {change : CreationCounters → CreationCounters} {more : Tally}
    (counts : ∀ counters, (change counters).tally = counters.tally.plus more) {earlier : Tally}
    {fresh other : CreationCounters} (counted : other.tally = earlier.plus fresh.tally) :
    (change other).tally = earlier.plus (change fresh).tally := by
  rw [counts, counts, counted, Tally.plus_assoc]

end CreationCounters

namespace Creator

open CreationCounters (tally_change tally_recordCreated tally_recordRefusedNoParent tally_recordRefusedAncient)

variable {σ τ : Type}

def reply (creator : Creator) : Action σ → Option (Except CreationError (Option Event) × σ)
  | .attempt surroundings now supply =>
      let attempt := creator.attempt surroundings now supply
      some (attempt.outcome, attempt.supply)
  | _ => none

def replies : Creator → List (Action σ) → List (Option (Except CreationError (Option Event) × σ))
  | _, [] => []
  | creator, action :: rest => creator.reply action :: replies (creator.history [action]).creator rest

/-- A creator that has counted something earlier, and is the same as the fresh one in all but its counters. -/
inductive Alike (earlier : Tally) (fresh : Creator) : Creator → Prop
  | of (counters : CreationCounters) : counters.tally = earlier.plus fresh.tally →
      Alike earlier fresh { fresh with counters := counters }

structure Parallel (earlier : Tally) (fresh other : Attempt σ) : Prop where
  outcome : other.outcome = fresh.outcome
  supply : other.supply = fresh.supply
  alike : Alike earlier fresh.creator other.creator

section Alike

variable {earlier : Tally} {fresh other : Creator}

theorem Alike.agrees (alike : Alike earlier fresh other) : Agrees fresh other := by
  cases alike
  exact ⟨rfl, rfl, rfl, rfl, rfl, rfl, rfl⟩

theorem Alike.record (alike : Alike earlier fresh other) {change : CreationCounters → CreationCounters}
    (more : Tally) (counts : ∀ counters, (change counters).tally = counters.tally.plus more) :
    Alike earlier { fresh with counters := change fresh.counters }
      { other with counters := change other.counters } := by
  cases alike with
  | of counters counted => exact .of _ (tally_change counts counted)

theorem Alike.commit (alike : Alike earlier fresh other) (supply : σ) (event : Event) :
    Parallel earlier (fresh.commit supply event) (other.commit supply event) := by
  cases alike with
  | of counters counted =>
      simp only [Creator.commit]
      split
      · exact ⟨rfl, rfl, .of counters counted⟩
      · exact ⟨rfl, rfl, .of _ (tally_change (tally_recordCreated · _ _) counted)⟩

theorem Alike.build (alike : Alike earlier fresh other) (surroundings : Surroundings σ) (now : Instant) (supply : σ)
    (parent : Option Event) :
    Parallel earlier (fresh.build surroundings now supply parent) (other.build surroundings now supply parent) := by
  have same := alike.agrees
  have grades := same.nextGeneration? parent
  cases graded : fresh.nextGeneration? parent with
  | none =>
      rw [build_of_exhausted graded, build_of_exhausted (grades.trans graded)]
      exact ⟨rfl, rfl, alike⟩
  | some generation =>
      rw [build_of_graded graded, build_of_graded (grades.trans graded), same.ancientIndicator, same.nextTime?,
        same.nextContent]
      split
      · exact ⟨rfl, rfl, alike.record _ tally_recordRefusedAncient⟩
      split
      · exact ⟨rfl, rfl, alike⟩
      · exact alike.commit _ _

theorem Parallel.whenCreated {fresh other : Attempt σ} (parallel : Parallel earlier fresh other)
    (change : CreationCounters → CreationCounters) (keeps : ∀ counters, (change counters).tally = counters.tally) :
    Parallel earlier (Attempt.whenCreated fresh change) (Attempt.whenCreated other change) := by
  unfold Attempt.whenCreated
  rw [parallel.outcome]
  split
  · exact ⟨rfl, parallel.supply, parallel.alike.record ⟨0, 0, 0⟩ keeps⟩
  · exact parallel

theorem Alike.follow (alike : Alike earlier fresh other) (surroundings : Surroundings σ) (now : Instant) (supply : σ)
    (choice : ParentChoice) :
    Parallel earlier (fresh.follow surroundings now supply choice) (other.follow surroundings now supply choice) := by
  cases choice with
  | pity parent =>
      have built := alike.build surroundings now supply (some parent)
      exact built.whenCreated (·.recordPityParent parent.creator) fun _ => rfl
  | best parent =>
      have built := alike.build surroundings now supply (some parent)
      exact built.whenCreated (·.recordBestParent parent.creator) fun _ => rfl
  | nothing =>
      have starts : other.mayStart = fresh.mayStart := by
        cases alike
        rfl
      simp only [Creator.follow, starts]
      split
      · exact alike.build surroundings now supply none
      · exact ⟨rfl, rfl, alike.record _ tally_recordRefusedNoParent⟩

theorem Alike.draws (alike : Alike earlier fresh other) :
    other.chooseParent other.random = fresh.chooseParent fresh.random := by
  cases alike
  exact chooseParent_counters _ _ _

theorem Alike.drawn (alike : Alike earlier fresh other) : Alike earlier fresh.drawn other.drawn := by
  have draws := alike.draws
  cases alike with
  | of counters counted =>
      unfold Creator.drawn
      rw [draws]
      exact .of _ counted

theorem Alike.attempt (alike : Alike earlier fresh other) (surroundings : Surroundings σ) (now : Instant)
    (supply : σ) :
    Parallel earlier (fresh.attempt surroundings now supply) (other.attempt surroundings now supply) := by
  have same := alike.agrees
  by_cases single : fresh.seat.roster.size = 1
  · simp only [Creator.attempt, same.seat, single, if_true, same.lastSelfEvent]
    exact alike.build surroundings now supply fresh.lastSelfEvent
  · rw [attempt_of_several single, attempt_of_several (same.seat ▸ single), alike.draws]
    exact alike.drawn.follow surroundings now supply _

theorem Alike.register (alike : Alike earlier fresh other) (event : Event) :
    Alike earlier (fresh.register event) (other.register event) := by
  have newer : other.isNewerSelfEvent event = fresh.isNewerSelfEvent event := by
    cases alike
    rfl
  have window : other.window = fresh.window := by
    cases alike
    rfl
  simp only [Creator.register, window, alike.agrees.seat, newer]
  split
  · exact alike
  split
  · exact alike
  split
  · split
    · cases alike with
      | of counters counted => exact .of counters counted
    · exact alike
  · cases alike with
    | of counters counted => exact .of counters counted

theorem Alike.next (alike : Alike earlier fresh other) (action : Action σ) :
    other.reply action = fresh.reply action ∧
      Alike earlier (fresh.history [action]).creator (other.history [action]).creator := by
  cases action with
  | register event => exact ⟨rfl, alike.register event⟩
  | install window =>
      cases alike with
      | of counters counted => exact ⟨rfl, .of counters counted⟩
  | attempt surroundings now supply =>
      have parallel := alike.attempt surroundings now supply
      have before : (fresh.history [.attempt surroundings now supply]).creator =
          (fresh.attempt surroundings now supply).creator := creator_next_attempt _ _ _ _
      have behind : (other.history [.attempt surroundings now supply]).creator =
          (other.attempt surroundings now supply).creator := creator_next_attempt _ _ _ _
      refine ⟨?_, ?_⟩
      · simp only [reply, parallel.outcome, parallel.supply]
      · rw [before, behind]
        exact parallel.alike
  | clear =>
      cases alike with
      | of counters counted => exact ⟨rfl, .of counters counted⟩

theorem Alike.replies (alike : Alike earlier fresh other) (actions : List (Action σ)) :
    other.replies actions = fresh.replies actions ∧
      Alike earlier (fresh.history actions).creator (other.history actions).creator := by
  induction actions generalizing fresh other with
  | nil => exact ⟨rfl, alike⟩
  | cons action rest ih =>
      obtain ⟨same, next⟩ := alike.next action
      obtain ⟨later, last⟩ := ih next
      refine ⟨?_, ?_⟩
      · rw [Creator.replies, Creator.replies, same, later]
      · rw [creator_history_cons fresh, creator_history_cons other]
        exact last

end Alike

theorem factor_history (creator : Creator) (actions : List (Action σ)) :
    (creator.history actions).creator.factor = creator.factor := by
  apply history_induction creator actions (motive := fun chronicle => chronicle.creator.factor = creator.factor)
  · rfl
  · intro chronicle same action _
    rw [← same]
    cases action with
    | register event =>
        rcases chronicle.creator.register_cases event with unchanged | ⟨_, _, _, replaced⟩ | ⟨_, _, peer⟩
        · simp only [Chronicle.next, unchanged]
        · simp only [Chronicle.next, replaced]
        · simp only [Chronicle.next, peer]
    | install window => rfl
    | attempt surroundings now supply =>
        rw [creator_next_attempt]
        rcases chronicle.creator.attempt_cases surroundings now supply with
          ⟨_, _, _, _, _, extended⟩ | ⟨_, agrees⟩
        · exact extended.factor
        · exact agrees.factor
    | clear => rfl

theorem alike_clear (seat : Seat) (mode : AncientMode) (settings : CreationSettings) (actions : List (Action τ)) :
    let creator := ((start seat mode settings).history actions).creator
    Alike creator.tally { start seat mode settings with random := creator.random } creator.clear := by
  intro creator
  -- A clearing resets all but the seat, the mode, the factor and the random state, and the first three never change.
  have stepped : Stepped seat mode creator := stepped_history seat mode settings actions
  have factor : creator.factor = settings.effectiveFactor := factor_history _ actions
  have cleared : creator.clear =
      { { start seat mode settings with random := creator.random } with counters := creator.counters } := by
    simp only [clear, start, stepped.seated, stepped.ownMode, factor]
  rw [cleared]
  exact .of _ rfl

/-- From a clearing on, a creator replies to every run as a new one does that draws the same random numbers, its
counts grow by the counts of the new one, and it stays the same as the new one in everything else. -/
theorem cleared_creators_reply_like_new_ones (seat : Seat) (mode : AncientMode) (settings : CreationSettings)
    (actions : List (Action τ)) (later : List (Action σ)) :
    let creator := ((start seat mode settings).history actions).creator
    let fresh : Creator := { start seat mode settings with random := creator.random }
    creator.clear.replies later = fresh.replies later ∧
      (creator.clear.history later).creator.tally = creator.tally.plus (fresh.history later).creator.tally ∧
      (creator.clear.history later).creator =
        { (fresh.history later).creator with counters := (creator.clear.history later).creator.counters } := by
  intro creator fresh
  obtain ⟨same, alike⟩ := (alike_clear seat mode settings actions).replies later
  refine ⟨same, ?_⟩
  generalize (creator.clear.history later).creator = last at alike
  cases alike with
  | of counters counted => exact ⟨counted, rfl⟩

end Creator

end Hashgraph
