import Mathlib.Algebra.BigOperators.Fin
import Mathlib.Algebra.Order.BigOperators.Group.Finset
import Mathlib.Order.Interval.Finset.Nat
import Hashgraph.Proofs.ChildlessTips

/-! The parent that is chosen out of pity. The numbers that may be drawn are split among the candidates, and each
one owns a range that is as long as its score. -/

namespace Hashgraph

namespace Progress

theorem sum_getD_le (scores : List Nat) {positions : List Nat} (distinct : positions.Nodup) :
    (positions.map fun position => scores[position]?.getD 0).sum ≤ scores.sum := by
  let value (position : Nat) : Nat := scores[position]?.getD 0
  calc (positions.map value).sum
      = ∑ position ∈ positions.toFinset, value position := (List.sum_toFinset value distinct).symm
    _ = ∑ position ∈ positions.toFinset with position < scores.length, value position := by
        refine (Finset.sum_filter_of_ne ?_).symm
        intro position _ scored
        by_contra outside
        exact scored (by simp [value, List.getElem?_eq_none (not_lt.mp outside)])
    _ ≤ ∑ position ∈ Finset.range scores.length, value position := by
        apply Finset.sum_le_sum_of_subset
        intro position listed
        exact Finset.mem_range.mpr (Finset.mem_filter.mp listed).2
    _ = scores.sum := by
        rw [Finset.sum_range, ← Fin.sum_univ_getElem scores]
        simp [value]

theorem sum_score_le (progress : Progress) (roster : Roster) {nodes : List NodeId} (distinct : nodes.Nodup) :
    (nodes.map (progress.score roster)).sum ≤ progress.scores.sum := by
  have apart : (nodes.filterMap roster.position?).Nodup :=
    distinct.filterMap fun _ _ _ first second => Roster.position?_injective first second
  have placed : (nodes.map (progress.score roster)).sum =
      ((nodes.filterMap roster.position?).map fun position => progress.scores[position]?.getD 0).sum := by
    -- Strangers have no place, and add nothing.
    clear distinct apart
    induction nodes with
    | nil => rfl
    | cons node rest ih =>
        rw [List.map_cons, List.sum_cons, ih, score]
        cases found : roster.position? node <;> simp [found]
  exact placed ▸ sum_getD_le progress.scores apart

end Progress

namespace Creator

variable {σ : Type} {creator : Creator}

def scoreSum (candidates : List (Event × Nat)) : Nat := (candidates.map Prod.snd).sum

@[simp] theorem scoreSum_cons (candidate : Event × Nat) (rest : List (Event × Nat)) :
    scoreSum (candidate :: rest) = candidate.2 + scoreSum rest := rfl

@[simp] theorem scoreSum_append (front rest : List (Event × Nat)) :
    scoreSum (front ++ rest) = scoreSum front + scoreSum rest := by
  simp [scoreSum]

theorem pick_eq_none_iff {draw : Nat} {candidates : List (Event × Nat)} :
    pick draw candidates = none ↔ scoreSum candidates ≤ draw := by
  induction candidates generalizing draw with
  | nil => simp [pick, scoreSum]
  | cons candidate rest ih =>
      simp only [pick, scoreSum_cons]
      split
      · simp only [reduceCtorEq, false_iff]
        omega
      · rw [ih]
        omega

/-- The numbers of a candidate follow those of all candidates before it. -/
theorem pick_eq_some_iff {draw score : Nat} {event : Event} {before after : List (Event × Nat)}
    (fresh : event ∉ before.map Prod.fst) (last : event ∉ after.map Prod.fst) :
    pick draw (before ++ (event, score) :: after) = some event ↔
      scoreSum before ≤ draw ∧ draw < scoreSum before + score := by
  induction before generalizing draw with
  | nil =>
      simp only [List.nil_append, pick]
      by_cases own : draw < score
      · simp [own, scoreSum]
      · have missed : pick (draw - score) after ≠ some event := by
          intro found
          obtain ⟨other, member⟩ := pick_mem found
          exact last (List.mem_map_of_mem member)
        simp [own, missed, scoreSum]
  | cons first rest ih =>
      -- Passing the first candidate takes its score off the draw and off the bounds alike.
      obtain ⟨different, fresh⟩ := not_or.mp (mt List.mem_cons.mpr fresh)
      simp only [List.cons_append, pick, scoreSum_cons]
      split
      · have other : first.1 ≠ event := fun same => different same.symm
        simp only [Option.some.injEq, other, false_iff]
        omega
      · rw [ih fresh]
        omega

/-- The numbers below the sum of all scores that select an event. -/
def drawsOf (candidates : List (Event × Nat)) (event : Event) : Finset Nat :=
  (Finset.range (scoreSum candidates)).filter fun draw => pick draw candidates = some event

theorem drawsOf_eq_Ico {candidates : List (Event × Nat)} {event : Event} {score : Nat}
    (distinct : (candidates.map Prod.fst).Nodup) (listed : (event, score) ∈ candidates) :
    ∃ first, drawsOf candidates event = Finset.Ico first (first + score) := by
  obtain ⟨before, after, rfl⟩ := List.append_of_mem listed
  rw [List.map_append, List.map_cons, List.nodup_middle, List.nodup_cons, List.mem_append, not_or] at distinct
  refine ⟨scoreSum before, ?_⟩
  ext draw
  simp only [drawsOf, Finset.mem_filter, Finset.mem_range, Finset.mem_Ico, scoreSum_append, scoreSum_cons,
    pick_eq_some_iff distinct.1.1 distinct.1.2]
  omega

theorem ignored_creators_nodup (sole : creator.childless.Sole) :
    (creator.ignored.map fun candidate => candidate.1.creator).Nodup := by
  have candidates : (creator.sortedCandidates.map Event.creator).Nodup :=
    (creator.sortedCandidates_perm.map Event.creator).nodup_iff.mpr sole.creators_nodup
  rw [ignored_eq, List.map_map]
  exact candidates.sublist (List.filter_sublist.map Event.creator)

theorem scoreSum_ignored_le (sole : creator.childless.Sole) :
    scoreSum creator.ignored ≤ creator.progress.scores.sum := by
  have scores : creator.ignored.map Prod.snd =
      (creator.ignored.map fun candidate => candidate.1.creator).map creator.selfishness := by
    rw [List.map_map]
    exact List.map_congr_left fun candidate listed => (mem_ignored_iff.mp listed).2
  rw [scoreSum, scores]
  exact creator.progress.sum_score_le creator.seat.roster (ignored_creators_nodup sole)

theorem choosePity_eq (creator : Creator) (random : RandomStream) : (creator.choosePity random).1 =
    if creator.ignored = [] then none
    else pick (random.below64 (scoreSum creator.ignored)).1 creator.ignored := by
  have total : creator.ignored.foldl (fun sum candidate => sum + candidate.2) 0 = scoreSum creator.ignored := by
    rw [scoreSum, List.sum_eq_foldl, List.foldl_map]
  unfold choosePity
  simp only [total, List.isEmpty_iff]
  split <;> rfl

theorem pitied_of_pick {draw : Nat} {event : Event} (found : pick draw creator.ignored = some event) :
    creator.Pitied event := by
  obtain ⟨score, listed⟩ := pick_mem found
  exact (mem_ignored_iff.mp listed).1

theorem ignored_eq_nil_iff : creator.ignored = [] ↔ ∀ event, ¬creator.Pitied event := by
  rw [List.eq_nil_iff_forall_not_mem]
  constructor
  · exact fun nobody event pitied => nobody _ (mem_ignored_iff.mpr ⟨pitied, rfl⟩)
  · rintro nobody ⟨event, score⟩ listed
    exact nobody event (mem_ignored_iff.mp listed).1

theorem scoreSum_ignored_pos (somebody : creator.ignored ≠ []) : 0 < scoreSum creator.ignored := by
  obtain ⟨⟨event, score⟩, listed⟩ := List.exists_mem_of_ne_nil _ somebody
  obtain ⟨pitied, rfl⟩ := mem_ignored_iff.mp listed
  calc 0 < creator.selfishness event.creator := lt_trans Nat.zero_lt_one pitied.ignored
    _ ≤ scoreSum creator.ignored := List.single_le_sum (by simp) _ (List.mem_map_of_mem listed)

theorem choosePity_eq_none_iff {random : RandomStream} :
    (creator.choosePity random).1 = none ↔ ∀ event, ¬creator.Pitied event := by
  rw [choosePity_eq, ← ignored_eq_nil_iff]
  by_cases nobody : creator.ignored = []
  · simp [nobody]
  · rw [if_neg nobody, pick_eq_none_iff]
    have inside := RandomStream.below64_lt (scoreSum_ignored_pos nobody) random
    simp [nobody, inside]

theorem choosePity_eq_some_iff {random : RandomStream} {event : Event} :
    (creator.choosePity random).1 = some event ↔
      creator.Pitied event ∧ (random.below64 (scoreSum creator.ignored)).1 ∈ drawsOf creator.ignored event := by
  rw [choosePity_eq, drawsOf, Finset.mem_filter, Finset.mem_range]
  by_cases nobody : creator.ignored = []
  · simp [nobody, scoreSum]
  · rw [if_neg nobody]
    have inside := RandomStream.below64_lt (scoreSum_ignored_pos nobody) random
    exact ⟨fun found => ⟨pitied_of_pick found, inside, found⟩, fun chosen => chosen.2.2⟩

/-- In every state that a run reaches with scores that add up to a word, pity finds nobody just if no childless
event is pitied. Else the draw is below the sum of the candidates' scores, each number below it selects one of
them, and each of them is selected by as many numbers, one after the other, as its creator has points. -/
theorem pity_is_a_weighted_choice (seat : Seat) (mode : AncientMode) (settings : CreationSettings)
    (actions : List (Action σ))
    (fits : ((Creator.start seat mode settings).history actions).creator.progress.scores.sum < UInt64.size) :
    let creator := ((Creator.start seat mode settings).history actions).creator
    let total := scoreSum creator.ignored
    total < UInt64.size ∧ (creator.ignored ≠ [] → 0 < total) ∧
      (∀ random, (creator.choosePity random).1 = none ↔ ∀ event, ¬creator.Pitied event) ∧
      (∀ random event, (creator.choosePity random).1 = some event ↔
        creator.Pitied event ∧ (random.below64 total).1 ∈ drawsOf creator.ignored event) ∧
      (∀ draw < total, ∃ event, creator.Pitied event ∧ draw ∈ drawsOf creator.ignored event) ∧
      ∀ event, creator.Pitied event →
        (∃ first, drawsOf creator.ignored event = Finset.Ico first (first + creator.selfishness event.creator)) ∧
        (drawsOf creator.ignored event).card = creator.selfishness event.creator ∧
        ∀ other, creator.Pitied other → other.creator = event.creator → other = event := by
  intro creator total
  have sole := sole_history seat mode settings actions
  refine ⟨(scoreSum_ignored_le sole).trans_lt fits, scoreSum_ignored_pos, fun _ => choosePity_eq_none_iff,
    fun _ _ => choosePity_eq_some_iff, ?_, ?_⟩
  · intro draw inside
    obtain ⟨event, found⟩ := Option.ne_none_iff_exists'.mp (mt pick_eq_none_iff.mp (not_le.mpr inside))
    exact ⟨event, pitied_of_pick found, Finset.mem_filter.mpr ⟨Finset.mem_range.mpr inside, found⟩⟩
  · intro event pitied
    have listed := mem_ignored_iff.mpr ⟨pitied, rfl⟩
    have distinct : (creator.ignored.map Prod.fst).Nodup := by
      apply List.Nodup.of_map Event.creator
      rw [List.map_map]
      exact ignored_creators_nodup sole
    obtain ⟨first, range⟩ := drawsOf_eq_Ico distinct listed
    refine ⟨⟨first, range⟩, by rw [range, Nat.card_Ico, Nat.add_sub_cancel_left], ?_⟩
    intro other pitiedToo same
    exact List.inj_on_of_nodup_map sole.creators_nodup pitiedToo.listed pitied.listed same

def coupleSeat : Seat :=
  ⟨⟨[⟨⟨0⟩, 1⟩, ⟨⟨1⟩, 2⟩, ⟨⟨2⟩, 0⟩, ⟨⟨3⟩, 0⟩], 3, by decide, by decide, by decide⟩, ⟨0⟩, by decide⟩

def neglectingRun : List (Action Unit) :=
  [.attempt silent .epoch (), .register (Ancestry.sampleEvent 1 [] 1 0), .register (Ancestry.sampleEvent 3 [] 1 0),
    .attempt silent .epoch (), .register (Ancestry.sampleEvent 1 [] 1 1), .register (Ancestry.sampleEvent 2 [] 1 0),
    .attempt silent .epoch (), .register (Ancestry.sampleEvent 1 [] 1 2), .attempt silent .epoch ()]

theorem neglectingRun_splits_five_draws :
    let creator := ((Creator.start coupleSeat .birthRoundThreshold .default).history neglectingRun).creator
    creator.progress.scores.sum < UInt64.size ∧ scoreSum creator.ignored = 5 ∧
      (∃ event, creator.Pitied event ∧ event.creator = ⟨2⟩ ∧ (drawsOf creator.ignored event).card = 2) ∧
      ∃ event, creator.Pitied event ∧ event.creator = ⟨3⟩ ∧ (drawsOf creator.ignored event).card = 3 := by
  have facts :
      let creator := ((Creator.start coupleSeat .birthRoundThreshold .default).history neglectingRun).creator
      creator.progress.scores.sum < UInt64.size ∧ scoreSum creator.ignored = 5 ∧
        (∃ event ∈ creator.childless.events, event.creator = ⟨2⟩ ∧ creator.selfishness event.creator = 2 ∧
          creator.gain event ≠ .zero) ∧
        ∃ event ∈ creator.childless.events, event.creator = ⟨3⟩ ∧ creator.selfishness event.creator = 3 ∧
          creator.gain event ≠ .zero := by
    decide +kernel
  obtain ⟨_, _, _, _, _, split⟩ :=
    pity_is_a_weighted_choice coupleSeat .birthRoundThreshold .default neglectingRun facts.1
  generalize ((Creator.start coupleSeat .birthRoundThreshold .default).history neglectingRun).creator = creator
    at facts split ⊢
  obtain ⟨fits, five, ⟨second, listed, two, twice, gains⟩, third, listedToo, three, thrice, gainsToo⟩ := facts
  have pitied : creator.Pitied second := ⟨listed, by omega, gains⟩
  have pitiedToo : creator.Pitied third := ⟨listedToo, by omega, gainsToo⟩
  exact ⟨fits, five, ⟨second, pitied, two, (split second pitied).2.1.trans twice⟩,
    third, pitiedToo, three, (split third pitiedToo).2.1.trans thrice⟩

end Creator

end Hashgraph
