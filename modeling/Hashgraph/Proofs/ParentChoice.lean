import Mathlib.Data.List.MinMax
import Mathlib.Data.Prod.Lex
import Hashgraph.Creation.Creator

/-! The choice of an other-parent, for every state of the random stream: whatever is chosen is a childless
event with a gain, and nothing is chosen only when no childless event has one. By weight it is the first of the
best ones, in the order that has been drawn. -/

namespace Hashgraph

namespace RandomStream

theorem swapIfInBounds_perm {α : Type} (items : Array α) (place other : Nat) :
    (items.swapIfInBounds place other).Perm items := by
  rw [Array.swapIfInBounds_def]
  split
  · split
    · exact Array.swap_perm _ _
    · exact Array.Perm.refl _
  · exact Array.Perm.refl _

theorem shuffleFrom_perm {α : Type} (count : Nat) (items : Array α) (stream : RandomStream) :
    (shuffleFrom count items stream).1.Perm items := by
  induction count generalizing items stream with
  | zero => exact Array.Perm.refl _
  | succ place ih =>
      simp only [shuffleFrom]
      split
      · exact Array.Perm.refl _
      · exact (ih _ _).trans (swapIfInBounds_perm _ _ _)

theorem shuffle_perm {α : Type} (items : List α) (stream : RandomStream) :
    (shuffle items stream).1.Perm items := by
  have shuffled := shuffleFrom_perm items.length items.toArray stream
  rw [Array.perm_iff_toList_perm] at shuffled
  simpa [shuffle] using shuffled

/-- At least half of the low parts are accepted, so that a draw runs out of its rejections with a probability of at
most `2 ^ -rejections`. -/
theorem half_le_acceptedLow {width bound : Nat} (positive : 0 < bound) (fits : bound < Nat.pow 2 width) :
    Nat.pow 2 width ≤ 2 * (acceptedLow width bound + 1) := by
  have leading : Nat.pow 2 bound.log2 ≤ bound := Nat.log2_self_le (Nat.ne_of_gt positive)
  have within : bound.log2 < width := (Nat.log2_lt (Nat.ne_of_gt positive)).mpr fits
  have shifted : Nat.pow 2 bound.log2 * Nat.pow 2 (width - (bound.log2 + 1)) ≤ acceptedLow width bound + 1 :=
    Nat.le_trans (Nat.mul_le_mul_right _ leading) (Nat.le_add_of_sub_le (Nat.le_refl _))
  have whole : width = bound.log2 + (width - (bound.log2 + 1)) + 1 := by omega
  calc Nat.pow 2 width = Nat.pow 2 (bound.log2 + (width - (bound.log2 + 1))) * 2 := congrArg (Nat.pow 2) whole
    _ = 2 * (Nat.pow 2 bound.log2 * Nat.pow 2 (width - (bound.log2 + 1))) :=
        (Nat.mul_comm _ 2).trans (congrArg (2 * ·) (Nat.pow_add 2 _ _))
    _ ≤ 2 * (acceptedLow width bound + 1) := Nat.mul_le_mul_left 2 shifted

theorem scaled_lt {width bound : Nat} (positive : 0 < bound) {next : RandomStream → Nat × RandomStream}
    (word : ∀ stream, (next stream).1 < Nat.pow 2 width) (rejections : Nat) (stream : RandomStream) :
    (scaled width bound next rejections stream).1 < bound := by
  have drawn : ∀ stream, (next stream).1 * bound / Nat.pow 2 width < bound := by
    intro stream
    apply Nat.div_lt_of_lt_mul
    exact Nat.mul_lt_mul_of_pos_right (word stream) positive
  induction rejections generalizing stream with
  | zero => exact drawn stream
  | succ rejections ih =>
      simp only [scaled]
      split
      · exact drawn stream
      · exact ih _

theorem below64_lt {bound : Nat} (positive : 0 < bound) (stream : RandomStream) :
    (stream.below64 bound).1 < bound :=
  scaled_lt positive (fun stream => stream.next64.1.toNat_lt_size) maximumRejections stream

end RandomStream

namespace Advancement

def rank (a : Advancement) : ℕ ×ₗ ℕ := toLex (a.weight.toNat, a.zeroWeightCount.toNat)

theorem exceeds_iff (a b : Advancement) : a.exceeds b = true ↔ b.rank < a.rank := by
  simp only [exceeds, rank, Prod.Lex.toLex_lt_toLex, Bool.or_eq_true, Bool.and_eq_true, decide_eq_true_eq,
    UInt64.lt_iff_toNat_lt, ← UInt64.toNat_inj]
  exact or_congr Iff.rfl (and_congr eq_comm Iff.rfl)

theorem rank_injective {a b : Advancement} (same : a.rank = b.rank) : a = b := by
  simp only [rank, toLex_inj, Prod.mk.injEq, UInt64.toNat_inj] at same
  cases a
  cases b
  simp only [Advancement.mk.injEq]
  exact same

end Advancement

def ParentChoice.parent? : ParentChoice → Option Event
  | .pity event => some event
  | .best event => some event
  | .nothing => none

namespace Creator

theorem insertCandidate_perm (candidate : Event) (events : List Event) :
    (insertCandidate candidate events).Perm (candidate :: events) := by
  induction events with
  | nil => exact List.Perm.refl _
  | cons first rest ih =>
      unfold insertCandidate
      split
      · exact List.Perm.refl _
      · exact (ih.cons first).trans (List.Perm.swap candidate first rest)

theorem foldr_insertCandidate_perm (events : List Event) : (events.foldr insertCandidate []).Perm events := by
  induction events with
  | nil => exact List.Perm.refl _
  | cons candidate rest ih => exact (insertCandidate_perm candidate _).trans (ih.cons candidate)

theorem sortedCandidates_perm (creator : Creator) : creator.sortedCandidates.Perm creator.childless.events :=
  foldr_insertCandidate_perm _

theorem mem_sortedCandidates {creator : Creator} {event : Event} :
    event ∈ creator.sortedCandidates ↔ event ∈ creator.childless.events :=
  creator.sortedCandidates_perm.mem_iff

/-- Gains come first, and selfishness scores among equal gains. -/
def rank (creator : Creator) (event : Event) : (ℕ ×ₗ ℕ) ×ₗ ℕ :=
  toLex ((creator.gain event).rank, creator.selfishness event.creator)

def improves (creator : Creator) (candidate : Event) (best : Option Event) : Bool :=
  (creator.gain candidate).isNonZero &&
    match best with
    | none => true
    | some known =>
        (creator.gain candidate).exceeds (creator.gain known) ||
          (creator.gain candidate = creator.gain known &&
            creator.selfishness known.creator < creator.selfishness candidate.creator)

theorem bestOf_cons (creator : Creator) (candidate : Event) (rest : List Event) (best : Option Event) :
    creator.bestOf (candidate :: rest) best =
      creator.bestOf rest (if creator.improves candidate best then some candidate else best) := rfl

theorem improves_gain {creator : Creator} {candidate : Event} {best : Option Event}
    (better : creator.improves candidate best = true) : (creator.gain candidate).isNonZero = true := by
  simp only [improves, Bool.and_eq_true] at better
  exact better.1

theorem improves_none (creator : Creator) (candidate : Event) :
    creator.improves candidate none = (creator.gain candidate).isNonZero := by
  simp [improves]

theorem improves_some_iff {creator : Creator} {candidate known : Event} :
    creator.improves candidate (some known) = true ↔
      (creator.gain candidate).isNonZero = true ∧ creator.rank known < creator.rank candidate := by
  simp only [improves, rank, Bool.and_eq_true, Bool.or_eq_true, Advancement.exceeds_iff, decide_eq_true_eq,
    Prod.Lex.toLex_lt_toLex]
  refine and_congr_right fun _ => or_congr Iff.rfl (and_congr_left fun _ => ?_)
  exact ⟨fun same => congrArg Advancement.rank same.symm, fun same => (Advancement.rank_injective same).symm⟩

theorem bestOf_append (creator : Creator) (front rest : List Event) (best : Option Event) :
    creator.bestOf (front ++ rest) best = creator.bestOf rest (creator.bestOf front best) := by
  induction front generalizing best with
  | nil => rfl
  | cons candidate front ih => exact ih _

/-- The search finds the first candidate of the highest rank among those with a gain. -/
theorem bestOf_eq_argmax (creator : Creator) (candidates : List Event) : creator.bestOf candidates none =
    (candidates.filter fun candidate => (creator.gain candidate).isNonZero).argmax creator.rank := by
  -- From the end, as both sides compare the last candidate with the best of all before it.
  induction candidates using List.reverseRecOn with
  | nil => rfl
  | append_singleton candidates candidate ih =>
      rw [bestOf_append, ih, bestOf_cons, bestOf, List.filter_append]
      by_cases gains : (creator.gain candidate).isNonZero = true
      · have alone : [candidate].filter (fun candidate => (creator.gain candidate).isNonZero) = [candidate] := by
          simp [gains]
        rw [alone, List.argmax_concat]
        cases (candidates.filter fun candidate => (creator.gain candidate).isNonZero).argmax creator.rank with
        | none => rw [if_pos ((creator.improves_none candidate).trans gains)]
        | some known => simp only [improves_some_iff, gains, true_and]
      · have gone : [candidate].filter (fun candidate => (creator.gain candidate).isNonZero) = [] := by
          simp [gains]
        rw [gone, List.append_nil, if_neg]
        exact fun better => gains (improves_gain better)

theorem chooseBest_eq_argmax (creator : Creator) (random : RandomStream) : (creator.chooseBest random).1 =
    ((random.shuffle creator.sortedCandidates).1.filter fun event => (creator.gain event).isNonZero).argmax
      creator.rank :=
  creator.bestOf_eq_argmax _

theorem drawn_perm (creator : Creator) (random : RandomStream) :
    (random.shuffle creator.sortedCandidates).1.Perm creator.childless.events :=
  (RandomStream.shuffle_perm creator.sortedCandidates random).trans creator.sortedCandidates_perm

theorem chooseBest_some {creator : Creator} {random : RandomStream} {chosen : Event}
    (found : (creator.chooseBest random).1 = some chosen) :
    chosen ∈ creator.childless.events ∧ (creator.gain chosen).isNonZero = true := by
  rw [chooseBest_eq_argmax] at found
  obtain ⟨drawn, gains⟩ := List.mem_filter.mp (List.argmax_mem found)
  exact ⟨(creator.drawn_perm random).subset drawn, gains⟩

theorem chooseBest_eq_none_iff {creator : Creator} {random : RandomStream} :
    (creator.chooseBest random).1 = none ↔
      ∀ event ∈ creator.childless.events, (creator.gain event).isNonZero = false := by
  rw [chooseBest_eq_argmax, List.argmax_eq_none, List.filter_eq_nil_iff]
  simp only [(creator.drawn_perm random).mem_iff, Bool.not_eq_true]

theorem pick_mem {choice : Nat} {candidates : List (Event × Nat)} {chosen : Event}
    (found : pick choice candidates = some chosen) : ∃ score, (chosen, score) ∈ candidates := by
  induction candidates generalizing choice with
  | nil => simp [pick] at found
  | cons candidate rest ih =>
      obtain ⟨first, score⟩ := candidate
      simp only [pick] at found
      split at found
      · cases found
        exact ⟨score, List.mem_cons_self⟩
      · obtain ⟨other, member⟩ := ih found
        exact ⟨other, List.mem_cons_of_mem _ member⟩

structure Pitied (creator : Creator) (event : Event) : Prop where
  listed : event ∈ creator.childless.events
  ignored : 1 < creator.selfishness event.creator
  gains : creator.gain event ≠ .zero

theorem ignored_eq (creator : Creator) : creator.ignored =
    (creator.sortedCandidates.filter fun event =>
      1 < creator.selfishness event.creator && (creator.gain event).isNonZero).map
        fun event => (event, creator.selfishness event.creator) := by
  unfold ignored
  induction creator.sortedCandidates with
  | nil => rfl
  | cons event rest ih =>
      rw [List.filterMap_cons, List.filter_cons, ih]
      by_cases kept : (1 < creator.selfishness event.creator && (creator.gain event).isNonZero) = true
      · simp only [kept, if_true, List.map_cons]
      · simp only [kept, Bool.false_eq_true, if_false]

theorem mem_ignored_iff {creator : Creator} {event : Event} {score : Nat} :
    (event, score) ∈ creator.ignored ↔ creator.Pitied event ∧ score = creator.selfishness event.creator := by
  rw [ignored_eq]
  simp only [List.mem_map, List.mem_filter, mem_sortedCandidates, Bool.and_eq_true, decide_eq_true_eq,
    Advancement.isNonZero, Prod.mk.injEq]
  constructor
  · rintro ⟨_, ⟨listed, ignored, gains⟩, rfl, rfl⟩
    exact ⟨⟨listed, ignored, gains⟩, rfl⟩
  · rintro ⟨pitied, rfl⟩
    exact ⟨event, ⟨pitied.listed, pitied.ignored, pitied.gains⟩, rfl, rfl⟩

theorem choosePity_some {creator : Creator} {random : RandomStream} {chosen : Event}
    (found : (creator.choosePity random).1 = some chosen) :
    chosen ∈ creator.childless.events ∧ (creator.gain chosen).isNonZero = true := by
  simp only [choosePity] at found
  split at found
  · simp at found
  · obtain ⟨score, member⟩ := pick_mem found
    have pitied := (mem_ignored_iff.mp member).1
    exact ⟨pitied.listed, decide_eq_true pitied.gains⟩

theorem chooseByWeight_parent? (creator : Creator) (random : RandomStream) :
    (creator.chooseByWeight random).1.parent? = (creator.chooseBest random).1 := by
  unfold chooseByWeight
  split <;> rename_i found <;> simp [ParentChoice.parent?, found]

theorem chooseParent_cases (creator : Creator) (random : RandomStream) :
    (∃ stream chosen, (creator.choosePity stream).1 = some chosen ∧
      (creator.chooseParent random).1.parent? = some chosen) ∨
      ∃ stream, (creator.chooseParent random).1.parent? = (creator.chooseBest stream).1 := by
  unfold chooseParent
  split
  · rename_i stream _
    split
    · rename_i chosen _ found
      exact Or.inl ⟨stream, chosen, by rw [found], rfl⟩
    · -- Pity that finds nobody falls back to the weights.
      exact Or.inr ⟨_, chooseByWeight_parent? creator _⟩
  · exact Or.inr ⟨_, chooseByWeight_parent? creator _⟩

theorem chooseParent_some {creator : Creator} {random : RandomStream} {parent : Event}
    (found : (creator.chooseParent random).1.parent? = some parent) :
    parent ∈ creator.childless.events ∧ (creator.gain parent).isNonZero = true := by
  rcases creator.chooseParent_cases random with ⟨stream, chosen, picked, same⟩ | ⟨stream, same⟩
  · rw [found] at same
    cases same
    exact choosePity_some picked
  · exact chooseBest_some (same.symm.trans found)

theorem chooseParent_none {creator : Creator} {random : RandomStream}
    (missing : (creator.chooseParent random).1.parent? = none) :
    ∀ event ∈ creator.childless.events, (creator.gain event).isNonZero = false := by
  rcases creator.chooseParent_cases random with ⟨stream, chosen, _, same⟩ | ⟨stream, same⟩
  · rw [missing] at same
    exact absurd same (by simp)
  · exact chooseBest_eq_none_iff.mp (same.symm.trans missing)

theorem bestOf_counters (creator : Creator) (counters : CreationCounters) (candidates : List Event)
    (best : Option Event) :
    { creator with counters := counters }.bestOf candidates best = creator.bestOf candidates best := by
  induction candidates generalizing best with
  | nil => rfl
  | cons candidate rest ih => exact ih _

theorem chooseParent_counters (creator : Creator) (counters : CreationCounters) (random : RandomStream) :
    { creator with counters := counters }.chooseParent random = creator.chooseParent random := by
  have best (candidates : List Event) : { creator with counters := counters }.bestOf candidates none =
      creator.bestOf candidates none := bestOf_counters creator counters candidates none
  have pity (random : RandomStream) : { creator with counters := counters }.choosePity random =
      creator.choosePity random := rfl
  have byWeight (random : RandomStream) : { creator with counters := counters }.chooseByWeight random =
      creator.chooseByWeight random := by
    simp only [chooseByWeight, chooseBest, best]
    rfl
  simp only [chooseParent, pity, byWeight]
  rfl

end Creator

end Hashgraph
