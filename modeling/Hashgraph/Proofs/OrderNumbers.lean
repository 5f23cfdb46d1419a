import Hashgraph.Consensus
import Hashgraph.Proofs.Generations

/-! The numbers that consensus gives. A new number lies above those of the event's known parents, and it is at most
the count of all numbers before it, so that numbers cannot run out as long as they can be counted in a word. -/

namespace Hashgraph

namespace Consensus

def nextNumber (consensus : Consensus) (event : Event) : Generation :=
  (consensus.nextNumber? event).getD firstGeneration

theorem order_of_numbered {consensus : Consensus} {event : Event} {nGen : Generation}
    (found : consensus.nextNumber? event = some nGen) :
    consensus.order event = (.ok (event.withNGen nGen), consensus.enter event nGen) := by
  rw [order, found]

theorem order_cases (consensus : Consensus) (event : Event) :
    (∃ nGen, consensus.nextNumber? event = some nGen ∧
        consensus.order event = (.ok (event.withNGen nGen), consensus.enter event nGen)) ∨
      (consensus.nextNumber? event = none ∧ consensus.order event = (.error .overflow, consensus)) := by
  cases found : consensus.nextNumber? event with
  | some nGen => exact Or.inl ⟨nGen, rfl, order_of_numbered found⟩
  | none =>
      refine Or.inr ⟨rfl, ?_⟩
      rw [order, found]

theorem window_order (consensus : Consensus) (event : Event) : (consensus.order event).2.window = consensus.window := by
  rcases consensus.order_cases event with ⟨nGen, _, done⟩ | ⟨_, failed⟩
  · rw [done]
    rfl
  · rw [failed]

theorem lt_nextNumber {consensus : Consensus} {event : Event} {next : Generation}
    (found : consensus.nextNumber? event = some next) {parent : EventDescriptor} (named : parent ∈ event.parents)
    {nGen : Generation} (known : consensus.numberOf? parent = some nGen) : nGen < next :=
  lt_generationBehind found (List.mem_filterMap.mpr ⟨parent, named, known⟩)

def NumbersBelow (consensus : Consensus) (bound : Nat) : Prop :=
  ∀ hash entry, consensus.numbers.find? hash = some entry → entry.2.toNat < bound

section NumbersBelow

variable {consensus : Consensus} {bound : Nat}

theorem NumbersBelow.numberOf? (below : consensus.NumbersBelow bound) {descriptor : EventDescriptor}
    {nGen : Generation} (known : consensus.numberOf? descriptor = some nGen) : nGen.toNat < bound := by
  obtain ⟨entry, found, rfl⟩ := Option.map_eq_some_iff.mp known
  exact below descriptor.hash entry found

theorem NumbersBelow.exists_nextNumber (below : consensus.NumbersBelow bound) (range : bound < UInt64.size)
    (event : Event) : ∃ next, consensus.nextNumber? event = some next ∧ next.toNat ≤ bound := by
  have small : ∀ nGen ∈ event.parents.filterMap consensus.numberOf?, nGen.toNat < bound := by
    intro nGen listed
    obtain ⟨parent, _, known⟩ := List.mem_filterMap.mp listed
    exact below.numberOf? known
  cases found : consensus.nextNumber? event with
  | none =>
      have top := small _ (generationBehind?_eq_none_iff.mp found)
      simp only [highestGeneration, UInt64.reduceToNat, UInt64.size] at top range
      omega
  | some next => exact ⟨next, rfl, generationBehind_le found small⟩

theorem NumbersBelow.enter (below : consensus.NumbersBelow bound) {higher : Nat} (le : bound ≤ higher) (event : Event)
    {nGen : Generation} (low : nGen.toNat < higher) : (consensus.enter event nGen).NumbersBelow higher := by
  intro hash entry found
  simp only [Consensus.enter, Table.find?_insert] at found
  split at found
  · cases found
    exact low
  · exact Nat.lt_of_lt_of_le (below hash entry found) le

end NumbersBelow

end Consensus

end Hashgraph
