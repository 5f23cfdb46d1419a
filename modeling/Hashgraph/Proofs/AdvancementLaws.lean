import Hashgraph.Proofs.Accumulator

/-! The laws of advancements over a roster. None is above what the other members have, and no addition on the way
to it leaves the range of the words; it is zero just if no other member moves; it grows with the newer tipset and
shrinks with the older one; and two steps together gain at least what the direct one does. -/

namespace Hashgraph

namespace Advancement

structure AtMost (a b : Advancement) : Prop where
  weight : a.weight ≤ b.weight
  zeroWeightCount : a.zeroWeightCount ≤ b.zeroWeightCount

theorem atMost_plus {a b c : Advancement} (weight : a.weight.toNat ≤ b.weight.toNat + c.weight.toNat)
    (count : a.zeroWeightCount.toNat ≤ b.zeroWeightCount.toNat + c.zeroWeightCount.toNat) :
    AtMost a (b.plus c) := by
  have word := a.weight.toNat_lt_size
  have wordCount := a.zeroWeightCount.toNat_lt_size
  constructor
  · rw [UInt64.le_iff_toNat_le, plus, toNat_saturatingAdd]
    omega
  · rw [UInt64.le_iff_toNat_le, plus, toNat_saturatingAdd]
    omega

def ofEntries (entries : List RosterEntry) : Advancement :=
  entries.foldl (fun sum entry => sum.count entry.weight) .zero

/-- Whether counting an entry adds its weight, or one entry without weight, as in the natural numbers. -/
structure CountsExactly (sum : Advancement) (entry : RosterEntry) : Prop where
  weight : (sum.count entry.weight).weight.toNat = sum.weight.toNat + entry.weight.toNat
  zeroWeightCount : (sum.count entry.weight).zeroWeightCount.toNat =
    sum.zeroWeightCount.toNat + if entry.weight = 0 then 1 else 0

theorem countsExactly_ofEntries {entries before after : List RosterEntry} {entry : RosterEntry}
    (weight : Roster.weightSum entries < UInt64.size)
    (count : entries.countP (fun entry => decide (entry.weight = 0)) < UInt64.size)
    (parts : entries = before ++ entry :: after) : CountsExactly (ofEntries before) entry := by
  subst parts
  rw [Roster.weightSum_append, Roster.weightSum] at weight
  rw [List.countP_append, List.countP_cons] at count
  have sum : (ofEntries before).weight.toNat = Roster.weightSum before := by
    rw [ofEntries, foldl_count_weight] <;> simp only [zero, UInt64.toNat_zero] <;> omega
  have counted : (ofEntries before).zeroWeightCount.toNat =
      before.countP (fun entry => decide (entry.weight = 0)) := by
    rw [ofEntries, foldl_count_zeroWeightCount] <;> simp only [zero, UInt64.toNat_zero] <;> omega
  constructor
  · exact toNat_count_weight (by omega)
  · simp only [decide_eq_true_eq] at count
    exact toNat_count_zeroWeightCount (by omega)

end Advancement

namespace Seat

theorem toNat_othersWeight (seat : Seat) : seat.othersWeight.toNat + seat.weight.toNat = seat.roster.total.toNat := by
  have parts := Roster.weightOf_others seat.member
  have ordered : seat.weight ≤ seat.roster.total := by
    rw [UInt64.le_iff_toNat_le, weight]
    omega
  rw [othersWeight, UInt64.toNat_sub_of_le _ _ ordered]
  rw [UInt64.le_iff_toNat_le] at ordered
  omega

def weightlessOthers (seat : Seat) : Nat := seat.roster.weightlessOf fun node => decide (node ≠ seat.node)

end Seat

namespace Tipset

open Advancement (AtMost CountsExactly)
open Creator (NotAhead)

theorem notAhead_iff {seat : Seat} {a b : Tipset} :
    NotAhead seat a b ↔ ∀ entry ∈ seat.roster.entries, entry.node ≠ seat.node →
      height (a.tip seat.roster entry.node) ≤ height (b.tip seat.roster entry.node) := by
  constructor
  · exact fun behind entry _ other => behind entry.node other
  · intro behind node other
    cases place : seat.roster.position? node with
    | none => simp [tip_of_stranger _ place]
    | some position =>
        have member : seat.roster.contains node = true := by simp [Roster.contains, place]
        obtain ⟨entry, listed, rfl⟩ := Roster.contains_iff.mp member
        exact behind entry listed other

theorem advances_other {seat : Seat} {old new : Tipset} (node : NodeId)
    (moved : advances seat.roster seat.node old new node = true) : decide (node ≠ seat.node) = true :=
  decide_eq_true (advances_iff.mp moved).1

theorem advancement_weight_add_le (seat : Seat) (old new : Tipset) :
    (advancement seat.roster seat.node old new).weight.toNat + seat.weight.toNat ≤ seat.roster.total.toNat := by
  have within := seat.roster.weightOf_isAdditive.mono (@advances_other seat old new)
  have whole := Roster.weightOf_others seat.member
  rw [advancement_weight, Seat.weight]
  omega

theorem advancement_zeroWeightCount_le (seat : Seat) (old new : Tipset) :
    (advancement seat.roster seat.node old new).zeroWeightCount.toNat ≤ seat.weightlessOthers := by
  rw [advancement_zeroWeightCount seat.member]
  exact seat.roster.weightlessOf_isAdditive.mono advances_other

def countedEntries (seat : Seat) (old new : Tipset) : List RosterEntry :=
  seat.roster.entries.filter fun entry => advances seat.roster seat.node old new entry.node

theorem countsExactly_of_counted {seat : Seat} {old new : Tipset} {before after : List RosterEntry}
    {entry : RosterEntry} (parts : countedEntries seat old new = before ++ entry :: after) :
    CountsExactly (Advancement.ofEntries before) entry := by
  apply Advancement.countsExactly_ofEntries _ _ parts
  · exact Nat.lt_of_le_of_lt (seat.roster.weightOf_le_total _) seat.roster.total.toNat_lt_size
  · rw [countedEntries, countP_advances]
    exact Roster.weightlessOf_lt seat.member (advances_self _ _ _ _)

theorem atMost_of_advances {seat : Seat} {old new older newer : Tipset}
    (nested : ∀ node, advances seat.roster seat.node old new node = true →
      advances seat.roster seat.node older newer node = true) :
    AtMost (advancement seat.roster seat.node old new) (advancement seat.roster seat.node older newer) := by
  constructor
  · rw [UInt64.le_iff_toNat_le, advancement_weight, advancement_weight]
    exact seat.roster.weightOf_isAdditive.mono nested
  · rw [UInt64.le_iff_toNat_le, advancement_zeroWeightCount seat.member, advancement_zeroWeightCount seat.member]
    exact seat.roster.weightlessOf_isAdditive.mono nested

theorem advancement_mono {seat : Seat} {old new older newer : Tipset} (falls : NotAhead seat older old)
    (rises : NotAhead seat new newer) :
    AtMost (advancement seat.roster seat.node old new) (advancement seat.roster seat.node older newer) := by
  apply atMost_of_advances
  intro node moved
  obtain ⟨other, higher⟩ := advances_iff.mp moved
  have below := falls node other
  have above := rises node other
  exact advances_iff.mpr ⟨other, by omega⟩

theorem advancement_eq_zero_iff {seat : Seat} {old new : Tipset} :
    advancement seat.roster seat.node old new = .zero ↔
      ∀ node, seat.roster.contains node = true → advances seat.roster seat.node old new node = false := by
  constructor
  · intro idle
    apply Roster.none_of_sums_zero
    · rw [← advancement_weight, idle]
      rfl
    · rw [← advancement_zeroWeightCount seat.member, idle]
      rfl
  · intro unmoved
    apply advancement_eq_zero_of_none
    intro node
    cases known : seat.roster.contains node with
    | true => exact unmoved node known
    | false =>
        have nowhere : seat.roster.position? node = none := by simpa [Roster.contains] using known
        simp [advances, tip_of_stranger _ nowhere, isBelow]

theorem advancement_le_add (seat : Seat) (first second third : Tipset) :
    let gain := advancement seat.roster seat.node
    (gain first third).weight.toNat ≤ (gain first second).weight.toNat + (gain second third).weight.toNat ∧
      (gain first third).zeroWeightCount.toNat ≤
        (gain first second).zeroWeightCount.toNat + (gain second third).zeroWeightCount.toNat := by
  -- A member that moves from the first to the third moves in one of the two steps.
  have covered : ∀ node, advances seat.roster seat.node first third node = true →
      advances seat.roster seat.node first second node = true ∨
        advances seat.roster seat.node second third node = true := by
    intro node moved
    obtain ⟨other, higher⟩ := advances_iff.mp moved
    simp only [advances_iff, ne_eq, other, not_false_eq_true, true_and]
    omega
  simp only [advancement_weight, advancement_zeroWeightCount seat.member]
  exact ⟨seat.roster.weightOf_isAdditive.le_add covered, seat.roster.weightlessOf_isAdditive.le_add covered⟩

/-- The advancement from an older to a newer tipset, as a member sees it. (1) It is at most the weight, and the
number without weight, of the other members, and every addition on the way to it is exact, also that of the
member's own weight. (2) It is zero just if no other member's tip is higher. (3) It does not fall when tips of the
newer tipset rise or tips of the older one fall. (4) It is at most the sum of the advancements to and from a third
tipset. -/
theorem advancements_measure_the_moved_members (seat : Seat) :
    let gain := advancement seat.roster seat.node
    (∀ old new,
      (gain old new).weight ≤ seat.othersWeight ∧
        (gain old new).weight.toNat + seat.weight.toNat ≤ seat.roster.total.toNat ∧
        (gain old new).zeroWeightCount.toNat ≤ seat.weightlessOthers ∧
        gain old new = Advancement.ofEntries (countedEntries seat old new) ∧
        ∀ before entry after, countedEntries seat old new = before ++ entry :: after →
          CountsExactly (Advancement.ofEntries before) entry) ∧
      (∀ old new, gain old new = .zero ↔ ∀ node, seat.roster.contains node = true → node ≠ seat.node →
        isBelow (old.tip seat.roster node) (new.tip seat.roster node) = false) ∧
      (∀ old new newer, NotAhead seat new newer → AtMost (gain old new) (gain old newer)) ∧
      (∀ old older new, NotAhead seat older old → AtMost (gain old new) (gain older new)) ∧
      ∀ first second third,
        AtMost (gain first third) ((gain first second).plus (gain second third)) ∧
          (gain first third).weight.toNat ≤ (gain first second).weight.toNat + (gain second third).weight.toNat ∧
          (gain first third).zeroWeightCount.toNat ≤
            (gain first second).zeroWeightCount.toNat + (gain second third).zeroWeightCount.toNat := by
  intro gain
  have unmoved : ∀ tipset, NotAhead seat tipset tipset := fun _ _ _ => Nat.le_refl _
  have weights : ∀ old new, (gain old new).weight.toNat + seat.weight.toNat ≤ seat.roster.total.toNat :=
    advancement_weight_add_le seat
  refine ⟨fun old new => ⟨?_, weights old new, advancement_zeroWeightCount_le seat old new, rfl,
    fun _ _ _ => countsExactly_of_counted⟩, ?_, fun old _ _ => advancement_mono (unmoved old),
    fun _ _ new falls => advancement_mono falls (unmoved new), ?_⟩
  · have sum := weights old new
    have parts := seat.toNat_othersWeight
    rw [UInt64.le_iff_toNat_le]
    omega
  · intro old new
    simp only [gain, advancement_eq_zero_iff, advances, Bool.and_eq_false_iff, decide_eq_false_iff_not, not_not]
    refine forall_congr' fun node => forall_congr' fun _ => ?_
    exact Decidable.or_iff_not_imp_left
  · intro first second third
    have sums := advancement_le_add seat first second third
    exact ⟨Advancement.atMost_plus sums.1 sums.2, sums⟩

def fullSeat : Seat :=
  ⟨⟨[⟨⟨0⟩, 5⟩, ⟨⟨1⟩, 2⟩, ⟨⟨2⟩, 0⟩, ⟨⟨3⟩, 0xfffffffffffffff8⟩], 0xffffffffffffffff, by decide, by decide, by decide⟩,
    ⟨0⟩, by decide⟩

/-- The own tips, of which the oldest is the highest, do not count. -/
theorem fullSeat_gains_all_other_weight :
    let gain := advancement fullSeat.roster fullSeat.node
    let oldest : Tipset := ⟨[some 9, none, some 2, none]⟩
    let old : Tipset := ⟨[none, none, some 3, none]⟩
    let middle : Tipset := ⟨[some 8, some 1, some 4, none]⟩
    let new : Tipset := ⟨[none, some 2, some 5, some 0]⟩
    gain old new = ⟨0xfffffffffffffffa, 1⟩ ∧ gain old new ≠ .zero ∧
      (gain old new).weight.toNat + fullSeat.weight.toNat ≤ fullSeat.roster.total.toNat ∧
      CountsExactly (Advancement.ofEntries [⟨⟨1⟩, 2⟩, ⟨⟨2⟩, 0⟩]) ⟨⟨3⟩, 0xfffffffffffffff8⟩ ∧
      AtMost (gain old middle) (gain old new) ∧ AtMost (gain old new) (gain oldest new) ∧
      AtMost (gain old new) ((gain old middle).plus (gain middle new)) := by
  intro gain oldest old middle new
  obtain ⟨bounded, idle, rises, falls, detour⟩ := advancements_measure_the_moved_members fullSeat
  obtain ⟨_, sum, _, _, additions⟩ := bounded old new
  refine ⟨by decide, ?_, sum, ?_, ?_, ?_, (detour old middle new).1⟩
  · intro none_
    have unmoved := (idle old new).mp none_ ⟨3⟩ (by decide) (by decide)
    exact absurd unmoved (by decide)
  · exact additions _ _ [] (by decide)
  · exact rises old middle new (notAhead_iff.mpr (by decide))
  · exact falls old oldest new (notAhead_iff.mpr (by decide))

end Tipset

end Hashgraph
