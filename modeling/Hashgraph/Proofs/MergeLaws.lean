import Mathlib.Data.List.Induction
import Hashgraph.Proofs.Tips

/-! Merging is the least upper bound. A tipset dominates another if no member has a lower tip in it, and what
dominates a merge is just what dominates all that is merged. Hence it makes no difference in which order, how often
and in what groups tipsets are merged, nor whether those are left out that the merge of the rest dominates. A tipset
that grows out of the empty one holds the highest of the numbers that it was given. -/

namespace Hashgraph

namespace Tipset

def Dominates (roster : Roster) (a b : Tipset) : Prop :=
  ∀ node ∈ roster.nodes, isBelow (a.tip roster node) (b.tip roster node) = false

instance (roster : Roster) (a b : Tipset) : Decidable (Dominates roster a b) :=
  inferInstanceAs (Decidable (∀ node ∈ roster.nodes, isBelow (a.tip roster node) (b.tip roster node) = false))

theorem dominates_iff {roster : Roster} {a b : Tipset} :
    Dominates roster a b ↔ ∀ node, height (b.tip roster node) ≤ height (a.tip roster node) := by
  constructor
  · intro dominates node
    cases found : b.tip roster node with
    | none => exact Nat.zero_le _
    | some nGen =>
        obtain ⟨entry, listed, named⟩ := Roster.contains_iff.mp (contains_of_tip found)
        have above := dominates node (List.mem_map.mpr ⟨entry, listed, named⟩)
        rwa [isBelow_eq_false_iff, found] at above
  · intro above node _
    rw [isBelow_eq_false_iff]
    exact above node

theorem Dominates.refl (roster : Roster) (tipset : Tipset) : Dominates roster tipset tipset :=
  dominates_iff.mpr fun _ => Nat.le_refl _

theorem Dominates.trans {roster : Roster} {a b c : Tipset} (upper : Dominates roster a b)
    (lower : Dominates roster b c) : Dominates roster a c :=
  dominates_iff.mpr fun node => Nat.le_trans (dominates_iff.mp lower node) (dominates_iff.mp upper node)

instance (roster : Roster) : Trans (Dominates roster) (Dominates roster) (Dominates roster) := ⟨Dominates.trans⟩

theorem Dominates.antisymm {roster : Roster} {a b : Tipset} (fitsA : a.tips.length = roster.size)
    (fitsB : b.tips.length = roster.size) (upper : Dominates roster a b) (lower : Dominates roster b a) : a = b := by
  apply ext_of_tips fitsA fitsB
  intro node _
  apply height_injective
  exact Nat.le_antisymm (dominates_iff.mp lower node) (dominates_iff.mp upper node)

/-- A tipset over a roster is known by what dominates it. -/
theorem eq_of_dominated_alike {roster : Roster} {a b : Tipset} (fitsA : a.tips.length = roster.size)
    (fitsB : b.tips.length = roster.size) (alike : ∀ upper, Dominates roster upper a ↔ Dominates roster upper b) :
    a = b :=
  Dominates.antisymm fitsA fitsB ((alike a).mp (.refl roster a)) ((alike b).mpr (.refl roster b))

theorem dominates_empty (roster : Roster) (tipset : Tipset) : Dominates roster tipset (empty roster) := by
  rw [dominates_iff]
  simp

theorem dominates_merge_iff {roster : Roster} {a b upper : Tipset} (fits : a.tips.length = roster.size) :
    Dominates roster upper (a.merge b) ↔ Dominates roster upper a ∧ Dominates roster upper b := by
  simp only [dominates_iff, tip_merge _ _ _ fits, height_higher, Nat.max_le, forall_and]

theorem dominates_foldl_merge_iff {roster : Roster} {first upper : Tipset} (fits : first.tips.length = roster.size)
    (others : List Tipset) :
    Dominates roster upper (others.foldl merge first) ↔
      Dominates roster upper first ∧ ∀ other ∈ others, Dominates roster upper other := by
  induction others generalizing first with
  | nil => simp
  | cons next rest ih =>
      have merged : (first.merge next).tips.length = roster.size := (length_merge first next).trans fits
      rw [List.foldl_cons, ih merged, dominates_merge_iff fits, and_assoc, List.forall_mem_cons]

theorem dominates_mergeAll_iff {roster : Roster} {tipsets : List Tipset} {upper : Tipset} :
    Dominates roster upper (mergeAll roster tipsets) ↔ ∀ tipset ∈ tipsets, Dominates roster upper tipset := by
  rw [mergeAll, dominates_foldl_merge_iff (length_empty roster)]
  exact and_iff_right (dominates_empty roster upper)

theorem dominates_mergeAll {roster : Roster} {tipsets : List Tipset} {tipset : Tipset} (listed : tipset ∈ tipsets) :
    Dominates roster (mergeAll roster tipsets) tipset :=
  dominates_mergeAll_iff.mp (.refl roster _) tipset listed

theorem mergeAll_congr (roster : Roster) {tipsets others : List Tipset}
    (same : ∀ tipset, tipset ∈ others ↔ tipset ∈ tipsets) : mergeAll roster others = mergeAll roster tipsets := by
  apply eq_of_dominated_alike (length_mergeAll roster others) (length_mergeAll roster tipsets)
  intro upper
  simp only [dominates_mergeAll_iff, same]

structure IsLeastAbove (roster : Roster) (tipsets : List Tipset) (bound : Tipset) : Prop where
  fits : bound.tips.length = roster.size
  above : ∀ tipset ∈ tipsets, Dominates roster bound tipset
  least : ∀ other, other.tips.length = roster.size → (∀ tipset ∈ tipsets, Dominates roster other tipset) →
    Dominates roster other bound

theorem isLeastAbove_iff {roster : Roster} {tipsets : List Tipset} {bound : Tipset} :
    IsLeastAbove roster tipsets bound ↔ bound = mergeAll roster tipsets := by
  constructor
  · intro leastAbove
    apply Dominates.antisymm leastAbove.fits (length_mergeAll roster tipsets)
    · exact dominates_mergeAll_iff.mpr leastAbove.above
    · exact leastAbove.least _ (length_mergeAll roster tipsets) fun _ => dominates_mergeAll
  · rintro rfl
    exact ⟨length_mergeAll roster tipsets, fun _ => dominates_mergeAll, fun _ _ => dominates_mergeAll_iff.mpr⟩

theorem mergeAll_eq_iff {roster : Roster} {kept tipsets : List Tipset} (subset : kept ⊆ tipsets) :
    mergeAll roster kept = mergeAll roster tipsets ↔
      ∀ tipset ∈ tipsets, Dominates roster (mergeAll roster kept) tipset := by
  rw [← dominates_mergeAll_iff]
  constructor
  · intro same
    exact same ▸ .refl roster _
  · intro upper
    apply upper.antisymm (length_mergeAll roster kept) (length_mergeAll roster tipsets)
    rw [dominates_mergeAll_iff]
    exact fun tipset listed => dominates_mergeAll (subset listed)

/-- Tipsets in groups within groups. A group is merged as a list, or its others are merged into its first part. -/
inductive Nesting where
  | single (tipset : Tipset)
  | all (parts : List Nesting)
  | onto (first : Nesting) (others : List Nesting)

namespace Nesting

mutual

def merged (roster : Roster) : Nesting → Tipset
  | .single tipset => tipset
  | .all parts => mergeAll roster (mergedEach roster parts)
  | .onto first others => (mergedEach roster others).foldl merge (first.merged roster)

def mergedEach (roster : Roster) : List Nesting → List Tipset
  | [] => []
  | part :: rest => part.merged roster :: mergedEach roster rest

end

mutual

def inputs : Nesting → List Tipset
  | .single tipset => [tipset]
  | .all parts => inputsEach parts
  | .onto first others => first.inputs ++ inputsEach others

def inputsEach : List Nesting → List Tipset
  | [] => []
  | part :: rest => part.inputs ++ inputsEach rest

end

variable {roster : Roster}

theorem length_merged : (nesting : Nesting) → (∀ tipset ∈ nesting.inputs, tipset.tips.length = roster.size) →
    (nesting.merged roster).tips.length = roster.size
  | .single tipset, fits => fits tipset (by simp [inputs])
  | .all parts, _ => length_mergeAll roster _
  | .onto first others, fits => by
      rw [merged, length_foldl_merge]
      exact length_merged first fun tipset listed => fits tipset (List.mem_append_left _ listed)

-- One induction over a tree and over the rows of its parts.
mutual

theorem dominates_merged_iff {upper : Tipset} : (nesting : Nesting) →
    (∀ tipset ∈ nesting.inputs, tipset.tips.length = roster.size) →
      (Dominates roster upper (nesting.merged roster) ↔ ∀ tipset ∈ nesting.inputs, Dominates roster upper tipset)
  | .single tipset, _ => by simp [merged, inputs]
  | .all parts, fits => by
      rw [merged, dominates_mergeAll_iff]
      exact dominates_mergedEach_iff parts fits
  | .onto first others, fits => by
      rw [inputs, List.forall_mem_append] at fits ⊢
      rw [merged, dominates_foldl_merge_iff (length_merged first fits.1), dominates_merged_iff first fits.1,
        dominates_mergedEach_iff others fits.2]

theorem dominates_mergedEach_iff {upper : Tipset} : (parts : List Nesting) →
    (∀ tipset ∈ inputsEach parts, tipset.tips.length = roster.size) →
      ((∀ tipset ∈ mergedEach roster parts, Dominates roster upper tipset) ↔
        ∀ tipset ∈ inputsEach parts, Dominates roster upper tipset)
  | [], _ => by simp [mergedEach, inputsEach]
  | part :: rest, fits => by
      rw [inputsEach, List.forall_mem_append] at fits ⊢
      rw [mergedEach, List.forall_mem_cons, dominates_merged_iff part fits.1, dominates_mergedEach_iff rest fits.2]

end

theorem merged_eq (nesting : Nesting) (fits : ∀ tipset ∈ nesting.inputs, tipset.tips.length = roster.size) :
    nesting.merged roster = mergeAll roster nesting.inputs := by
  apply eq_of_dominated_alike (nesting.length_merged fits) (length_mergeAll roster nesting.inputs)
  intro upper
  rw [nesting.dominates_merged_iff fits, dominates_mergeAll_iff]

end Nesting

inductive Growth where
  | advance (node : NodeId) (nGen : Generation)
  | merge (others : List Tipset)

namespace Growth

def apply (roster : Roster) (tipset : Tipset) : Growth → Tipset
  | .advance node nGen => tipset.advance roster node nGen
  | .merge others => others.foldl Tipset.merge tipset

def Feeds (roster : Roster) (node : NodeId) (nGen : Generation) : Growth → Prop
  | .advance creator number => creator = node ∧ number = nGen
  | .merge others => ∃ other ∈ others, other.tip roster node = some nGen

theorem length_apply (roster : Roster) (tipset : Tipset) (step : Growth) :
    (step.apply roster tipset).tips.length = tipset.tips.length := by
  cases step with
  | advance node nGen => exact length_advance tipset roster node nGen
  | merge others => exact length_foldl_merge others tipset

theorem isHighest_apply {roster : Roster} {tipset : Tipset} {node : NodeId} (fits : tipset.tips.length = roster.size)
    (member : roster.contains node = true) {numbers : Generation → Prop}
    (highest : IsHighest numbers (tipset.tip roster node)) (step : Growth) :
    IsHighest (fun nGen => numbers nGen ∨ step.Feeds roster node nGen) ((step.apply roster tipset).tip roster node) := by
  cases step with
  | advance creator number =>
      simp only [apply, Feeds, tip_advance _ _ _ _ fits]
      by_cases own : creator = node
      · simp only [own, member, and_self, if_true, true_and]
        exact (highest.higher (isHighest_self (some number))).congr fun nGen => by simp
      · simpa [own] using highest
  | merge others =>
      simp only [apply, Feeds]
      rw [tip_foldl_merge others tipset node fits]
      exact IsHighest.foldl others (fun other _ => isHighest_self (other.tip roster node)) highest

end Growth

def grown (roster : Roster) (steps : List Growth) : Tipset := steps.foldl (Growth.apply roster) (empty roster)

theorem isHighest_grown {roster : Roster} (steps : List Growth) {node : NodeId}
    (member : roster.contains node = true) :
    (grown roster steps).tips.length = roster.size ∧
      IsHighest (fun nGen => ∃ step ∈ steps, step.Feeds roster node nGen) ((grown roster steps).tip roster node) := by
  induction steps using List.reverseRecOn with
  | nil => simp [grown, length_empty, IsHighest]
  | append_singleton steps step ih =>
      obtain ⟨fits, highest⟩ := ih
      have last : grown roster (steps ++ [step]) = step.apply roster (grown roster steps) := by simp [grown]
      rw [last, Growth.length_apply]
      refine ⟨fits, (Growth.isHighest_apply fits member highest step).congr ?_⟩
      intro nGen
      simp [or_and_right, exists_or]

/-- The merge of some tipsets is the only one that is the least of all that dominate them. It depends neither on
their order nor on repetitions, nor on groups in which they are merged first; and some of them alone have the same
merge just if theirs dominates the others. A tipset that grows out of the empty one by advances and merges has, for
each member, the highest of the numbers that they bring for it. -/
theorem merges_are_least_upper_bounds (roster : Roster) :
    (∀ tipsets,
      (∀ bound, IsLeastAbove roster tipsets bound ↔ bound = mergeAll roster tipsets) ∧
        (∀ others, (∀ tipset, tipset ∈ others ↔ tipset ∈ tipsets) →
          mergeAll roster others = mergeAll roster tipsets) ∧
        (∀ nesting : Nesting, (∀ tipset, tipset ∈ nesting.inputs ↔ tipset ∈ tipsets) →
          (∀ tipset ∈ tipsets, tipset.tips.length = roster.size) →
            nesting.merged roster = mergeAll roster tipsets) ∧
        ∀ kept ⊆ tipsets, mergeAll roster kept = mergeAll roster tipsets ↔
          ∀ tipset ∈ tipsets, Dominates roster (mergeAll roster kept) tipset) ∧
      ∀ steps node, roster.contains node = true →
        IsHighest (fun nGen => ∃ step ∈ steps, Growth.Feeds roster node nGen step)
          ((grown roster steps).tip roster node) := by
  constructor
  · intro tipsets
    refine ⟨fun _ => isLeastAbove_iff, fun _ => mergeAll_congr roster, ?_, fun _ => mergeAll_eq_iff⟩
    intro nesting same fits
    rw [nesting.merged_eq fun tipset listed => fits tipset ((same tipset).mp listed)]
    exact mergeAll_congr roster same
  · intro steps node member
    exact (isHighest_grown steps member).2

def crossedRoster : Roster := ⟨[⟨⟨7⟩, 0⟩, ⟨⟨0⟩, 5⟩, ⟨⟨3⟩, 0⟩], 5, by decide, by decide, by decide⟩

def crossedTipsets : List Tipset :=
  [⟨[some 0, none, some 0xffffffffffffffff]⟩, ⟨[none, some 4, some 3]⟩, ⟨[some 0, some 2, none]⟩]

theorem crossedTipsets_merge_alike :
    let merged : Tipset := ⟨[some 0, some 4, some 0xffffffffffffffff]⟩
    let nesting : Nesting :=
      .onto (.single crossedTipsets[2]) [.all [.single crossedTipsets[1], .single crossedTipsets[0]],
        .onto (.single crossedTipsets[0]) []]
    let steps : List Growth := [.advance ⟨3⟩ 9, .merge (crossedTipsets.drop 1), .advance ⟨0⟩ 3, .advance ⟨5⟩ 8]
    IsLeastAbove crossedRoster crossedTipsets merged ∧
      mergeAll crossedRoster (crossedTipsets.reverse ++ crossedTipsets) = merged ∧
      nesting.merged crossedRoster = merged ∧
      mergeAll crossedRoster (crossedTipsets.take 2) = merged ∧
      mergeAll crossedRoster (crossedTipsets.drop 1) ≠ merged ∧
      IsHighest (fun nGen => ∃ step ∈ steps, step.Feeds crossedRoster ⟨0⟩ nGen) (some 4) := by
  intro merged nesting steps
  obtain ⟨laws, highest⟩ := merges_are_least_upper_bounds crossedRoster
  obtain ⟨least, repeated, nested, dropped⟩ := laws crossedTipsets
  have whole : merged = mergeAll crossedRoster crossedTipsets := by decide
  have inputs : nesting.inputs ⊆ crossedTipsets ∧ crossedTipsets ⊆ nesting.inputs := by decide
  refine ⟨(least merged).mpr whole, ?_, ?_, ?_, ?_, ?_⟩
  · rw [whole]
    exact repeated _ fun tipset => by simp
  · rw [whole]
    exact nested nesting (fun _ => ⟨fun listed => inputs.1 listed, fun listed => inputs.2 listed⟩) (by decide)
  · rw [whole]
    exact (dropped _ (by decide)).mpr (by decide)
  · rw [whole, ne_eq, dropped _ (by decide)]
    decide
  · have tip : (grown crossedRoster steps).tip crossedRoster ⟨0⟩ = some 4 := by decide
    exact tip ▸ highest steps ⟨0⟩ (by decide)

end Tipset

end Hashgraph
