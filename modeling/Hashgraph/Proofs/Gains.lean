import Mathlib.Data.Fintype.Card
import Mathlib.Data.List.Count
import Hashgraph.Proofs.Tips
import Hashgraph.Seat

/-! What an advancement counts. Machine words add up the weights of the members that moved, and their
number where they have no weight; over a roster neither sum leaves the range of the words. -/

namespace Hashgraph

namespace Roster

def weightOf (roster : Roster) (chosen : NodeId → Bool) : Nat :=
  weightSum (roster.entries.filter fun entry => chosen entry.node)

def weightlessOf (roster : Roster) (chosen : NodeId → Bool) : Nat :=
  roster.entries.countP fun entry => chosen entry.node && decide (entry.weight = 0)

theorem weightSum_append (before after : List RosterEntry) :
    weightSum (before ++ after) = weightSum before + weightSum after := by
  induction before with
  | nil => simp [weightSum]
  | cons entry rest ih =>
      rw [List.cons_append, weightSum, weightSum, ih]
      omega

theorem weight_le_weightSum {entries : List RosterEntry} {entry : RosterEntry} (listed : entry ∈ entries) :
    entry.weight.toNat ≤ weightSum entries := by
  induction entries with
  | nil => simp at listed
  | cons first rest ih =>
      simp only [weightSum]
      rcases List.mem_cons.mp listed with same | later
      · subst same
        omega
      · have inRest := ih later
        omega

theorem weightSum_filter_split (chosen : RosterEntry → Bool) (entries : List RosterEntry) :
    weightSum (entries.filter chosen) + weightSum (entries.filter fun entry => !chosen entry) =
      weightSum entries := by
  induction entries with
  | nil => rfl
  | cons entry rest ih =>
      cases accepted : chosen entry <;> simp [accepted, weightSum] <;> omega

theorem countP_split (chosen other : RosterEntry → Bool) (entries : List RosterEntry) :
    entries.countP (fun entry => chosen entry && other entry) +
        entries.countP (fun entry => !chosen entry && other entry) = entries.countP other := by
  rw [List.countP_eq_countP_filter_add entries other chosen, List.countP_filter, List.countP_filter]
  simp only [Bool.and_comm]

theorem weightOf_congr {roster : Roster} {p q : NodeId → Bool}
    (same : ∀ node, roster.contains node = true → p node = q node) : roster.weightOf p = roster.weightOf q := by
  have equal : roster.entries.filter (fun entry => p entry.node) =
      roster.entries.filter (fun entry => q entry.node) :=
    List.filter_congr fun entry member => same _ (contains_iff.mpr ⟨entry, member, rfl⟩)
  rw [weightOf, weightOf, equal]

/-- What a part of the chosen members measures, and what the rest does, are together what all of them do. -/
def IsAdditive (measure : (NodeId → Bool) → Nat) : Prop :=
  ∀ ⦃inner outer : NodeId → Bool⦄, (∀ node, inner node = true → outer node = true) →
    measure inner + measure (fun node => outer node && !inner node) = measure outer

theorem IsAdditive.mono {measure : (NodeId → Bool) → Nat} (additive : IsAdditive measure)
    {inner outer : NodeId → Bool} (nested : ∀ node, inner node = true → outer node = true) :
    measure inner ≤ measure outer := by
  have parts := additive nested
  omega

theorem IsAdditive.le_add {measure : (NodeId → Bool) → Nat} (additive : IsAdditive measure)
    {whole first second : NodeId → Bool}
    (covered : ∀ node, whole node = true → first node = true ∨ second node = true) :
    measure whole ≤ measure first + measure second := by
  let either (node : NodeId) : Bool := first node || second node
  have within : measure whole ≤ measure either :=
    additive.mono fun node chosen => by simpa [either] using covered node chosen
  have nested : ∀ node, first node = true → either node = true := by simp +contextual [either]
  have parts := additive nested
  have rest : measure (fun node => either node && !first node) ≤ measure second := by
    apply additive.mono
    intro node chosen
    simp only [either, Bool.and_eq_true, Bool.or_eq_true, Bool.not_eq_true'] at chosen
    exact chosen.1.resolve_left (by simp [chosen.2])
  omega

theorem weightOf_isAdditive (roster : Roster) : IsAdditive roster.weightOf := by
  intro inner outer nested
  have parts := weightSum_filter_split (fun entry => inner entry.node)
    (roster.entries.filter fun entry => outer entry.node)
  rw [List.filter_filter, List.filter_filter] at parts
  have left : ∀ node, (inner node && outer node) = inner node := by
    intro node
    cases chosen : inner node
    · rfl
    · simp [nested node chosen]
  simp only [left] at parts
  simpa only [weightOf, Bool.and_comm] using parts

theorem weightlessOf_isAdditive (roster : Roster) : IsAdditive roster.weightlessOf := by
  intro inner outer nested
  have parts := countP_split (fun entry => inner entry.node)
    (fun entry => outer entry.node && decide (entry.weight = 0)) roster.entries
  have left : ∀ entry : RosterEntry,
      (inner entry.node && (outer entry.node && decide (entry.weight = 0))) =
        (inner entry.node && decide (entry.weight = 0)) := by
    intro entry
    cases chosen : inner entry.node
    · rfl
    · simp [nested _ chosen]
  have right : ∀ entry : RosterEntry,
      (!inner entry.node && (outer entry.node && decide (entry.weight = 0))) =
        (outer entry.node && !inner entry.node && decide (entry.weight = 0)) := by
    intro entry
    cases inner entry.node <;> simp
  simp only [left, right] at parts
  exact parts

theorem weightOf_le_total (roster : Roster) (chosen : NodeId → Bool) :
    roster.weightOf chosen ≤ roster.total.toNat := by
  have parts := weightSum_filter_split (fun entry => chosen entry.node) roster.entries
  rw [roster.total_eq]
  unfold weightOf
  omega

theorem length_entries_le (roster : Roster) : roster.entries.length ≤ UInt64.size := by
  let number (entry : RosterEntry) : Fin UInt64.size := entry.node.number.toFin
  have distinct : (roster.entries.map number).Nodup := by
    rw [List.nodup_iff_pairwise_ne, List.pairwise_map]
    apply (List.pairwise_map.mp roster.distinct).imp
    intro a b different same
    apply different
    have words : a.node.number = b.node.number := UInt64.toFin_inj.mp same
    exact congrArg NodeId.mk words
  have bound := distinct.length_le_card
  simpa using bound

theorem weightlessOf_lt {roster : Roster} {self : NodeId} {chosen : NodeId → Bool}
    (member : roster.contains self = true) (leftOut : chosen self = false) :
    roster.weightlessOf chosen < UInt64.size := by
  obtain ⟨entry, listed, named⟩ := contains_iff.mp member
  have fewer : roster.weightlessOf chosen < roster.entries.length := by
    apply List.countP_lt_length_iff.mpr
    exact ⟨entry, listed, by simp [named, leftOut]⟩
  have bound := roster.length_entries_le
  omega

theorem none_of_sums_zero {roster : Roster} {chosen : NodeId → Bool} (weight : roster.weightOf chosen = 0)
    (count : roster.weightlessOf chosen = 0) :
    ∀ node, roster.contains node = true → chosen node = false := by
  intro node member
  obtain ⟨entry, listed, rfl⟩ := contains_iff.mp member
  by_contra picked
  simp only [Bool.not_eq_false] at picked
  have weighted := List.countP_eq_zero.mp count entry listed
  simp only [picked, Bool.true_and, decide_eq_true_eq] at weighted
  have summand : entry.weight.toNat ≤ roster.weightOf chosen :=
    weight_le_weightSum (List.mem_filter.mpr ⟨listed, picked⟩)
  rw [weight] at summand
  exact weighted (UInt64.toNat_inj.mp (Nat.le_zero.mp summand))

theorem entry?_of_mem {roster : Roster} {entry : RosterEntry} (listed : entry ∈ roster.entries) :
    roster.entry? entry.node = some entry := by
  obtain ⟨place, bound, rfl⟩ := List.mem_iff_getElem.mp listed
  apply List.find?_eq_some_iff_getElem.mpr
  refine ⟨by simp, place, bound, rfl, ?_⟩
  intro earlier before
  have distinct := List.pairwise_iff_getElem.mp roster.distinct earlier place
    (by simp only [List.length_map]; omega) (by simpa using bound) before
  simpa using distinct

theorem weight_of_mem {roster : Roster} {entry : RosterEntry} (listed : entry ∈ roster.entries) :
    roster.weight entry.node = entry.weight := by
  simp [weight, entry?_of_mem listed]

theorem weightSum_filter_node (entries : List RosterEntry) (distinct : (entries.map RosterEntry.node).Nodup)
    {entry : RosterEntry} (listed : entry ∈ entries) :
    weightSum (entries.filter fun other => decide (other.node = entry.node)) = entry.weight.toNat := by
  induction entries with
  | nil => simp at listed
  | cons first rest ih =>
      simp only [List.map_cons, List.nodup_cons, List.mem_map, not_exists, not_and] at distinct
      rcases List.mem_cons.mp listed with same | later
      · subst same
        have others : rest.filter (fun other => decide (other.node = entry.node)) = [] := by
          apply List.filter_eq_nil_iff.mpr
          intro other member
          simpa using distinct.1 other member
        simp [others, weightSum]
      · have different : first.node ≠ entry.node := fun same => distinct.1 entry later same.symm
        simp [different, ih distinct.2 later]

theorem weightOf_others {roster : Roster} {self : NodeId} (member : roster.contains self = true) :
    roster.weightOf (fun node => decide (node ≠ self)) + (roster.weight self).toNat = roster.total.toNat := by
  obtain ⟨entry, listed, rfl⟩ := contains_iff.mp member
  have parts := weightSum_filter_split (fun other => decide (other.node = entry.node)) roster.entries
  rw [weightSum_filter_node _ roster.distinct listed, ← roster.total_eq] at parts
  rw [weight_of_mem listed, weightOf]
  simp only [ne_eq, decide_not]
  omega

end Roster

namespace Advancement

/-! ### Sums of machine words -/

theorem count_weight (sum : Advancement) (weight : UInt64) :
    (sum.count weight).weight = sum.weight + weight := by
  unfold count
  split <;> simp [*]

theorem count_zeroWeightCount (sum : Advancement) (weight : UInt64) :
    (sum.count weight).zeroWeightCount = sum.zeroWeightCount + if weight = 0 then 1 else 0 := by
  unfold count
  split <;> simp

theorem toNat_count_weight {sum : Advancement} {weight : UInt64}
    (inRange : sum.weight.toNat + weight.toNat < UInt64.size) :
    (sum.count weight).weight.toNat = sum.weight.toNat + weight.toNat := by
  rw [count_weight, UInt64.toNat_add, Nat.mod_eq_of_lt inRange]

theorem toNat_count_zeroWeightCount {sum : Advancement} {weight : UInt64}
    (inRange : sum.zeroWeightCount.toNat + (if weight = 0 then 1 else 0) < UInt64.size) :
    (sum.count weight).zeroWeightCount.toNat = sum.zeroWeightCount.toNat + if weight = 0 then 1 else 0 := by
  rw [count_zeroWeightCount]
  split
  · rename_i weightless
    rw [if_pos weightless] at inRange
    exact (UInt64.toNat_add _ _).trans (Nat.mod_eq_of_lt inRange)
  · simp

theorem foldl_count_weight (entries : List RosterEntry) (sum : Advancement)
    (bound : sum.weight.toNat + Roster.weightSum entries < UInt64.size) :
    (entries.foldl (fun sum entry => sum.count entry.weight) sum).weight.toNat =
      sum.weight.toNat + Roster.weightSum entries := by
  induction entries generalizing sum with
  | nil => simp [Roster.weightSum]
  | cons entry rest ih =>
      rw [Roster.weightSum] at bound
      have next := @toNat_count_weight sum entry.weight (by omega)
      rw [List.foldl_cons, ih _ (by omega), next, Roster.weightSum]
      omega

theorem foldl_count_zeroWeightCount (entries : List RosterEntry) (sum : Advancement)
    (bound : sum.zeroWeightCount.toNat + entries.countP (fun entry => decide (entry.weight = 0)) < UInt64.size) :
    (entries.foldl (fun sum entry => sum.count entry.weight) sum).zeroWeightCount.toNat =
      sum.zeroWeightCount.toNat + entries.countP (fun entry => decide (entry.weight = 0)) := by
  induction entries generalizing sum with
  | nil => simp
  | cons entry rest ih =>
      rw [List.countP_cons] at bound
      simp only [decide_eq_true_eq] at bound
      have next := @toNat_count_zeroWeightCount sum entry.weight (by omega)
      rw [List.foldl_cons, ih _ (by omega), next, List.countP_cons]
      simp only [decide_eq_true_eq]
      omega

theorem isNonZero_eq_false_iff (a : Advancement) :
    a.isNonZero = false ↔ a.weight.toNat = 0 ∧ a.zeroWeightCount.toNat = 0 := by
  obtain ⟨weight, count⟩ := a
  have zeros : ∀ word : UInt64, word.toNat = 0 ↔ word = 0 := fun word => UInt64.toNat_inj (b := 0)
  simp [isNonZero, zero, zeros]

end Advancement

namespace Tipset

theorem advances_iff {roster : Roster} {self node : NodeId} {old new : Tipset} :
    advances roster self old new node = true ↔
      node ≠ self ∧ height (old.tip roster node) < height (new.tip roster node) := by
  simp [advances, isBelow_iff]

theorem advances_self (roster : Roster) (self : NodeId) (old new : Tipset) :
    advances roster self old new self = false := by
  simp [advances]

theorem advancement_congr {roster : Roster} {self : NodeId} (old : Tipset) {new other : Tipset}
    (same : ∀ node, node ≠ self → new.tip roster node = other.tip roster node) :
    advancement roster self old new = advancement roster self old other := by
  have equal : advances roster self old new = advances roster self old other := by
    funext node
    by_cases own : node = self
    · simp [advances, own]
    · simp [advances, same node own]
  simp only [advancement, equal]

theorem advancement_weight (roster : Roster) (self : NodeId) (old new : Tipset) :
    (advancement roster self old new).weight.toNat = roster.weightOf (advances roster self old new) := by
  have bound := roster.weightOf_le_total (advances roster self old new)
  have word := roster.total.toNat_lt_size
  unfold Roster.weightOf at bound
  rw [advancement, Advancement.foldl_count_weight]
  · simp [Advancement.zero, Roster.weightOf]
  · simp only [Advancement.zero, UInt64.toNat_zero]
    omega

theorem countP_advances (roster : Roster) (self : NodeId) (old new : Tipset) :
    (roster.entries.filter fun entry => advances roster self old new entry.node).countP
        (fun entry => decide (entry.weight = 0)) = roster.weightlessOf (advances roster self old new) := by
  rw [List.countP_filter]
  simp only [Roster.weightlessOf, Bool.and_comm]

theorem advancement_zeroWeightCount {roster : Roster} {self : NodeId} (member : roster.contains self = true)
    (old new : Tipset) :
    (advancement roster self old new).zeroWeightCount.toNat =
      roster.weightlessOf (advances roster self old new) := by
  have bound := Roster.weightlessOf_lt member (advances_self roster self old new)
  rw [advancement, Advancement.foldl_count_zeroWeightCount]
  · rw [countP_advances]
    simp [Advancement.zero]
  · rw [countP_advances]
    simpa [Advancement.zero] using bound

theorem advancement_eq_zero_of_none {roster : Roster} {self : NodeId} {old new : Tipset}
    (unmoved : ∀ node, advances roster self old new node = false) :
    advancement roster self old new = .zero := by
  have nobody : (roster.entries.filter fun entry => advances roster self old new entry.node) = [] := by
    simp [unmoved]
  simp [advancement, nobody]

theorem advancement_self (roster : Roster) (self : NodeId) (tipset : Tipset) :
    advancement roster self tipset tipset = .zero := by
  apply advancement_eq_zero_of_none
  intro node
  rw [← Bool.not_eq_true, advances_iff]
  omega

theorem advancement_minus {roster : Roster} {self : NodeId} (member : roster.contains self = true)
    {old inner outer : Tipset}
    (nested : ∀ node, advances roster self old inner node = true → advances roster self old outer node = true) :
    let whole := advancement roster self old outer
    let part := advancement roster self old inner
    let fresh := fun node => advances roster self old outer node && !advances roster self old inner node
    part.weight ≤ whole.weight ∧ part.zeroWeightCount ≤ whole.zeroWeightCount ∧
      (whole.minus part).weight.toNat = roster.weightOf fresh ∧
      (whole.minus part).zeroWeightCount.toNat = roster.weightlessOf fresh := by
  intro whole part fresh
  have weights : part.weight.toNat + roster.weightOf fresh = whole.weight.toNat := by
    simp only [whole, part, advancement_weight]
    exact roster.weightOf_isAdditive nested
  have counts : part.zeroWeightCount.toNat + roster.weightlessOf fresh = whole.zeroWeightCount.toNat := by
    simp only [whole, part, advancement_zeroWeightCount member]
    exact roster.weightlessOf_isAdditive nested
  refine ⟨?_, ?_, ?_, ?_⟩
  · rw [UInt64.le_iff_toNat_le]
    omega
  · rw [UInt64.le_iff_toNat_le]
    omega
  · rw [Advancement.minus, toNat_saturatingSub]
    omega
  · rw [Advancement.minus, toNat_saturatingSub]
    omega

end Tipset

end Hashgraph
