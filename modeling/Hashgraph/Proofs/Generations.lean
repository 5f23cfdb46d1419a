import Hashgraph.Event

/-! The generation behind some others lies above all of them. It exists unless one of them is the highest number. -/

namespace Hashgraph

def highestGeneration : Generation := 0xffffffffffffffff

theorem generation_lt_highest_iff {generation : Generation} :
    generation < highestGeneration ↔ generation ≠ highestGeneration := by
  have range := generation.toNat_lt_size
  rw [UInt64.lt_iff_toNat_lt, Ne, ← UInt64.toNat_inj]
  simp only [highestGeneration, UInt64.reduceToNat, UInt64.size] at range ⊢
  omega

theorem checkedAdd_one_eq_none_iff {generation : Generation} :
    checkedAdd generation 1 = none ↔ generation = highestGeneration := by
  have range := generation.toNat_lt_size
  rw [checkedAdd_eq_none_iff, ← UInt64.toNat_inj]
  simp only [highestGeneration, UInt64.reduceToNat, UInt64.size] at range ⊢
  omega

theorem max?_words {words : List UInt64} {highest : UInt64} (found : words.max? = some highest) :
    highest ∈ words ∧ ∀ word ∈ words, word ≤ highest := by
  have either : Std.MaxEqOr UInt64 := ⟨fun a b => by
    simp only [max]
    split
    · exact Or.inr rfl
    · exact Or.inl rfl⟩
  have least : Std.LawfulOrderSup UInt64 := ⟨fun a b c => by
    simp only [max, UInt64.le_iff_toNat_le]
    split <;> omega⟩
  have lawful : Std.LawfulOrderMax UInt64 := {}
  exact List.max?_eq_some_iff.mp found

theorem generationBehind?_cases (generations : List Generation) :
    (generations = [] ∧ generationBehind? generations = some firstGeneration) ∨
      ∃ highest ∈ generations, (∀ generation ∈ generations, generation ≤ highest) ∧
        generationBehind? generations = checkedAdd highest 1 := by
  unfold generationBehind?
  cases found : generations.max? with
  | none => exact Or.inl ⟨List.max?_eq_none_iff.mp found, rfl⟩
  | some highest =>
      obtain ⟨listed, bound⟩ := max?_words found
      exact Or.inr ⟨highest, listed, bound, rfl⟩

theorem lt_generationBehind {generations : List Generation} {next : Generation}
    (found : generationBehind? generations = some next) {generation : Generation}
    (listed : generation ∈ generations) : generation < next := by
  rcases generationBehind?_cases generations with ⟨nobody, _⟩ | ⟨highest, _, bound, sum⟩
  · simp [nobody] at listed
  · have below := bound generation listed
    have above := checkedAdd_eq_some_iff.mp (sum.symm.trans found)
    rw [UInt64.le_iff_toNat_le] at below
    rw [UInt64.lt_iff_toNat_lt, above, UInt64.toNat_one]
    omega

theorem generationBehind_le {generations : List Generation} {next : Generation}
    (found : generationBehind? generations = some next) {bound : Nat}
    (below : ∀ generation ∈ generations, generation.toNat < bound) : next.toNat ≤ bound := by
  rcases generationBehind?_cases generations with ⟨_, first⟩ | ⟨highest, listed, _, sum⟩
  · cases first.symm.trans found
    exact Nat.zero_le _
  · have above := checkedAdd_eq_some_iff.mp (sum.symm.trans found)
    have small := below highest listed
    rw [above, UInt64.toNat_one]
    omega

theorem generationBehind?_eq_none_iff {generations : List Generation} :
    generationBehind? generations = none ↔ highestGeneration ∈ generations := by
  rcases generationBehind?_cases generations with ⟨nobody, first⟩ | ⟨highest, listed, bound, sum⟩
  · subst nobody
    simp [first]
  rw [sum, checkedAdd_one_eq_none_iff]
  constructor
  · exact fun top => top ▸ listed
  · intro top
    apply Decidable.byContradiction
    intro below
    exact UInt64.not_lt.mpr (bound _ top) (generation_lt_highest_iff.mpr below)

theorem nextGeneration_cases {parents : List EventDescriptor} {generation : Generation}
    (found : nextGeneration? parents = some generation) :
    (parents = [] ∧ generation = firstGeneration) ∨
      ∃ highest ∈ parents, (∀ parent ∈ parents, parent.generation ≤ highest.generation) ∧
        generation.toNat = highest.generation.toNat + 1 := by
  rcases generationBehind?_cases (parents.map EventDescriptor.generation) with
    ⟨nobody, first⟩ | ⟨_, listed, bound, sum⟩
  · exact Or.inl ⟨List.map_eq_nil_iff.mp nobody, (Option.some_inj.mp (first.symm.trans found)).symm⟩
  · obtain ⟨highest, named, rfl⟩ := List.mem_map.mp listed
    exact Or.inr ⟨highest, named, List.forall_mem_map.mp bound, checkedAdd_eq_some_iff.mp (sum.symm.trans found)⟩

theorem generation_lt_nextGeneration {parents : List EventDescriptor} {generation : Generation}
    (found : nextGeneration? parents = some generation) {parent : EventDescriptor} (named : parent ∈ parents) :
    parent.generation < generation :=
  lt_generationBehind found (List.mem_map.mpr ⟨parent, named, rfl⟩)

theorem nextGeneration_le {parents : List EventDescriptor} {generation : Generation}
    (found : nextGeneration? parents = some generation) {bound : Nat}
    (below : ∀ parent ∈ parents, parent.generation.toNat < bound) : generation.toNat ≤ bound :=
  generationBehind_le found (List.forall_mem_map.mpr below)

theorem nextGeneration?_eq_none_iff {parents : List EventDescriptor} :
    nextGeneration? parents = none ↔ ∃ parent ∈ parents, parent.generation = highestGeneration := by
  rw [nextGeneration?, generationBehind?_eq_none_iff, List.mem_map]

theorem exists_nextGeneration {parents : List EventDescriptor}
    (low : ∀ parent ∈ parents, parent.generation < highestGeneration) :
    ∃ generation, nextGeneration? parents = some generation := by
  rw [← Option.isSome_iff_exists, ← Option.ne_none_iff_isSome, Ne, nextGeneration?_eq_none_iff]
  rintro ⟨parent, named, top⟩
  exact generation_lt_highest_iff.mp (low parent named) top

def Event.unsigned (content : EventContent) : Event :=
  .ofContent content ((nextGeneration? content.parents).getD firstGeneration) fun _ => .absent

end Hashgraph
