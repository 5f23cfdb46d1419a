import Hashgraph.Proofs.SelfChain

/-! Every transaction of a node has a nanosecond of its own, also when the clock stands still or goes back and
whatever is registered or installed between two events. -/

namespace Hashgraph

namespace Event

def Spans (event : Event) (time : Int) : Prop := event.timeCreated.nanos ≤ time ∧ time < event.finish

def transactionTimes (event : Event) : List Int :=
  (List.range event.transactions.length).map fun place : Nat => event.timeCreated.nanos + place

theorem spans_transaction {event : Event} {time : Int} (listed : time ∈ event.transactionTimes) :
    event.Spans time := by
  obtain ⟨place, member, rfl⟩ := List.mem_map.mp listed
  have bound := List.mem_range.mp member
  unfold Spans finish
  omega

theorem transactionTimes_increase (event : Event) : event.transactionTimes.Pairwise (· < ·) := by
  apply List.pairwise_map.mpr
  apply List.pairwise_lt_range.imp
  intro early late before
  omega

theorem spans_increase {early late : Event} (spaced : early.finish ≤ late.timeCreated.nanos) {a b : Int}
    (inEarly : early.Spans a) (inLate : late.Spans b) : a < b := by
  have above := inEarly.2
  have below := inLate.1
  omega

end Event

namespace Creator

variable {σ : Type}

theorem Chained.spaced {chronicle : Chronicle} (chained : Chained chronicle) :
    (chronicle.creations.reverse.map Creation.event).Pairwise fun early late =>
      early.finish ≤ late.timeCreated.nanos := by
  rw [List.pairwise_map, List.pairwise_reverse]
  exact times_spaced chained.later chained.linked

/-- The events that a node has made since the last clearing, in their order: each begins behind the nanoseconds
of the one before, all of them keep apart, and the times of all their transactions increase. -/
theorem transactions_have_nanoseconds_of_their_own (creator : Creator) (actions : List (Action σ)) :
    let events := (creator.history actions).creations.reverse.map Creation.event
    (events.IsChain fun early late : Event =>
        early.timeCreated.nanos + (max 1 early.transactions.length : Nat) ≤ late.timeCreated.nanos) ∧
      (events.Pairwise fun early late => (∀ time, ¬(early.Spans time ∧ late.Spans time)) ∧
        ∀ a b, early.Spans a → late.Spans b → a < b) ∧
      (events.flatMap Event.transactionTimes).Pairwise (· < ·) := by
  intro events
  have spaced : events.Pairwise fun early late => early.finish ≤ late.timeCreated.nanos :=
    (chained_history creator actions).spaced
  refine ⟨?_, ?_, ?_⟩
  · apply List.Pairwise.isChain
    apply spaced.imp
    intro early late apart
    rw [Nat.max_comm]
    exact apart
  · apply spaced.imp
    intro early late apart
    refine ⟨?_, fun a b inEarly inLate => Event.spans_increase apart inEarly inLate⟩
    rintro time ⟨inEarly, inLate⟩
    have impossible := Event.spans_increase apart inEarly inLate
    omega
  · rw [List.pairwise_flatMap]
    refine ⟨fun event _ => event.transactionTimes_increase, ?_⟩
    apply spaced.imp
    intro early late apart a inEarly b inLate
    exact Event.spans_increase apart (Event.spans_transaction inEarly) (Event.spans_transaction inLate)

-- The clock of the only member stands still, and each of its events takes two transactions.
example :
    let seat : Seat := ⟨⟨[⟨⟨0⟩, 1⟩], 1, by decide, by decide, by decide⟩, ⟨0⟩, by decide⟩
    let pairs : Surroundings Unit := ⟨fun _ => .absent, fun supply => ([⟨[1]⟩, ⟨[2]⟩], supply)⟩
    let hurried : List (Action Unit) := List.replicate 3 (.attempt pairs .epoch ())
    let events := ((Creator.start seat .birthRoundThreshold .default).history hurried).creations.reverse.map
      Creation.event
    events.flatMap Event.transactionTimes = [0, 1, 2, 3, 4, 5] := by
  decide +kernel

end Creator

end Hashgraph
