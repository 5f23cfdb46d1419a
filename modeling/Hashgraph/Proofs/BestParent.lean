import Hashgraph.Proofs.CreatorRun

/-! The parent that is chosen by weight. In whatever order the candidates are drawn, it is the first of those with
the greatest gain and, among equal gains, the highest selfishness score. -/

namespace Hashgraph

namespace Creator

/-- A childless event with a gain, such that no other one has a greater gain, and none with the same gain a higher
selfishness score. -/
structure IsBest (creator : Creator) (event : Event) : Prop where
  listed : event ∈ creator.childless.events
  gains : creator.gain event ≠ .zero
  greatest : ∀ other ∈ creator.childless.events, ¬(creator.gain event).rank < (creator.gain other).rank
  ignored : ∀ other ∈ creator.childless.events, creator.gain other = creator.gain event →
    creator.selfishness other.creator ≤ creator.selfishness event.creator

theorem isBest_of_chosen {creator : Creator} {random : RandomStream} {event : Event}
    (chosen : (creator.chooseBest random).1 = some event) : creator.IsBest event := by
  obtain ⟨listed, gains⟩ := chooseBest_some chosen
  rw [chooseBest_eq_argmax] at chosen
  have bound : ∀ other ∈ creator.childless.events, creator.gain other ≠ .zero →
      creator.rank other ≤ creator.rank event := by
    intro other member gainsToo
    have drawn := (creator.drawn_perm random).symm.subset member
    exact List.le_of_mem_argmax (List.mem_filter.mpr ⟨drawn, decide_eq_true gainsToo⟩) chosen
  refine ⟨listed, of_decide_eq_true gains, ?_, ?_⟩
  · intro other member higher
    -- The search leaves candidates without a gain out, but no gain is less than none.
    by_cases idle : creator.gain other = .zero
    · rw [idle, Advancement.rank, Advancement.rank, Prod.Lex.toLex_lt_toLex] at higher
      simp [Advancement.zero] at higher
    · have ranked := bound other member idle
      rw [rank, rank, Prod.Lex.toLex_le_toLex] at ranked
      rcases ranked with lower | ⟨equal, _⟩
      · exact lt_asymm higher lower
      · exact higher.ne equal.symm
  · intro other member equal
    have ranked := bound other member (equal ▸ of_decide_eq_true gains)
    rw [rank, rank, equal, Prod.Lex.toLex_le_toLex] at ranked
    rcases ranked with lower | ⟨_, score⟩
    · exact absurd lower (lt_irrefl _)
    · exact score

/-- In every state and for every random stream, no parent is chosen just if no childless event has a gain; a chosen
one is a maximum among the childless events, by gains and then by selfishness scores. -/
theorem best_parent_is_a_maximum (creator : Creator) (random : RandomStream) :
    ((creator.chooseBest random).1 = none ↔ ∀ event ∈ creator.childless.events, creator.gain event = .zero) ∧
      ∀ event, (creator.chooseBest random).1 = some event → creator.IsBest event := by
  refine ⟨?_, fun event => isBest_of_chosen⟩
  rw [chooseBest_eq_none_iff]
  simp [Advancement.isNonZero]

def evenSeat : Seat :=
  ⟨⟨[⟨⟨0⟩, 1⟩, ⟨⟨1⟩, 1⟩, ⟨⟨2⟩, 1⟩, ⟨⟨3⟩, 1⟩], 4, by decide, by decide, by decide⟩, ⟨0⟩, by decide⟩

def tiedRun : List (Action Unit) :=
  [.attempt silent .epoch (), .register (Ancestry.sampleEvent 1 [] 1 0), .register (Ancestry.sampleEvent 2 [] 1 0),
    .register (Ancestry.sampleEvent 3 [] 1 0), .attempt silent .epoch (), .attempt silent .epoch (),
    .register (Ancestry.sampleEvent 1 [] 1 1), .register (Ancestry.sampleEvent 2 [] 1 1)]

theorem tiedRun_prefers_the_ignored_member :
    let creator := ((Creator.start evenSeat .birthRoundThreshold .default).history tiedRun).creator
    creator.childless.events.map creator.gain = [⟨1, 0⟩, ⟨1, 0⟩, ⟨1, 0⟩] ∧
      ∀ random, ∃ event, (creator.chooseBest random).1 = some event ∧ event.creator = ⟨3⟩ := by
  have facts :
      let creator := ((Creator.start evenSeat .birthRoundThreshold .default).history tiedRun).creator
      creator.childless.events.map creator.gain = [⟨1, 0⟩, ⟨1, 0⟩, ⟨1, 0⟩] ∧
        (¬∀ event ∈ creator.childless.events, creator.gain event = .zero) ∧
        ∀ event ∈ creator.childless.events,
          (∀ other ∈ creator.childless.events, creator.gain other = creator.gain event →
            creator.selfishness other.creator ≤ creator.selfishness event.creator) → event.creator = ⟨3⟩ := by
    decide +kernel
  intro creator
  obtain ⟨tied, gains, only⟩ := facts
  refine ⟨tied, fun random => ?_⟩
  obtain ⟨nothing, best⟩ := best_parent_is_a_maximum creator random
  obtain ⟨event, chosen⟩ := Option.ne_none_iff_exists'.mp (mt nothing.mp gains)
  exact ⟨event, chosen, only event (best event chosen).listed (best event chosen).ignored⟩

end Creator

end Hashgraph
