import Hashgraph.Tipset

/-! The order of tips, and the view of a tipset through the tips of a roster's members: what merging,
advancing and excluding do to every single tip. -/

namespace Hashgraph

namespace Roster

theorem position?_bound {roster : Roster} {node : NodeId} {position : Nat}
    (found : roster.position? node = some position) : position < roster.size := by
  obtain ⟨bound, _⟩ := List.findIdx?_eq_some_iff_getElem.mp found
  exact bound

theorem node_at_position {roster : Roster} {node : NodeId} {position : Nat}
    (found : roster.position? node = some position) : roster.nodes[position]? = some node := by
  obtain ⟨bound, same, _⟩ := List.findIdx?_eq_some_iff_getElem.mp found
  have named : roster.entries[position].node = node := by simpa using same
  simp [nodes, List.getElem?_eq_getElem bound, named]

theorem position?_injective {roster : Roster} {a b : NodeId} {position : Nat}
    (foundA : roster.position? a = some position) (foundB : roster.position? b = some position) : a = b := by
  have named := node_at_position foundA
  rw [node_at_position foundB] at named
  exact (Option.some.inj named).symm

theorem position?_of_place (roster : Roster) {place : Nat} (bound : place < roster.entries.length) :
    roster.position? roster.entries[place].node = some place := by
  apply List.findIdx?_eq_some_iff_getElem.mpr
  refine ⟨bound, by simp, ?_⟩
  intro earlier before
  have distinct := List.pairwise_iff_getElem.mp roster.distinct earlier place
    (by simp only [List.length_map]; omega) (by simpa using bound) before
  simpa using distinct

theorem contains_iff {roster : Roster} {node : NodeId} :
    roster.contains node = true ↔ ∃ entry ∈ roster.entries, entry.node = node := by
  simp [contains, position?, List.findIdx?_isSome]

end Roster

namespace Tipset

/-- Nothing has height zero, and every number lies above it. -/
def height : Option Generation → Nat
  | none => 0
  | some nGen => nGen.toNat + 1

@[simp] theorem height_none : height none = 0 := rfl

@[simp] theorem height_some (nGen : Generation) : height (some nGen) = nGen.toNat + 1 := rfl

theorem height_injective {a b : Option Generation} (same : height a = height b) : a = b := by
  cases a with
  | none =>
      cases b with
      | none => rfl
      | some b => simp at same
  | some a =>
      cases b with
      | none => simp at same
      | some b =>
          simp only [height_some, Nat.add_right_cancel_iff] at same
          rw [UInt64.toNat_inj.mp same]

@[simp] theorem height_higher (a b : Option Generation) : height (higher a b) = max (height a) (height b) := by
  cases a with
  | none => simp [higher]
  | some a =>
      cases b with
      | none => simp [higher]
      | some b =>
          simp only [higher, UInt64.le_iff_toNat_le]
          split <;> simp only [height_some] <;> omega

@[simp] theorem higher_none (tip : Option Generation) : higher tip none = tip := by
  cases tip <;> rfl

theorem higher_eq_or (a b : Option Generation) : higher a b = a ∨ higher a b = b := by
  cases a with
  | none => exact Or.inr rfl
  | some a =>
      cases b with
      | none => exact Or.inl rfl
      | some b =>
          simp only [higher]
          split
          · exact Or.inr rfl
          · exact Or.inl rfl

theorem isBelow_iff (a b : Option Generation) : isBelow a b = true ↔ height a < height b := by
  cases a <;> cases b <;> simp [isBelow, UInt64.lt_iff_toNat_lt]

theorem isBelow_eq_false_iff (a b : Option Generation) : isBelow a b = false ↔ height b ≤ height a := by
  rw [← Bool.not_eq_true, isBelow_iff, Nat.not_lt]

@[simp] theorem length_mergeTips (a b : List (Option Generation)) : (mergeTips a b).length = a.length := by
  induction a generalizing b with
  | nil => rfl
  | cons tip rest ih => cases b <;> simp [mergeTips, ih]

theorem getElem?_mergeTips (a b : List (Option Generation)) (place : Nat) :
    (mergeTips a b)[place]? = (a[place]?).map fun tip => higher tip (b[place]?).join := by
  induction a generalizing b place with
  | nil => simp [mergeTips]
  | cons tip rest ih =>
      cases b with
      | nil => simp [mergeTips]
      | cons other others =>
          cases place with
          | zero => simp [mergeTips]
          | succ place => simpa [mergeTips] using ih others place

@[simp] theorem length_merge (a b : Tipset) : (a.merge b).tips.length = a.tips.length := length_mergeTips _ _

theorem length_foldl_merge (tipsets : List Tipset) (first : Tipset) :
    (tipsets.foldl merge first).tips.length = first.tips.length := by
  induction tipsets generalizing first with
  | nil => rfl
  | cons next rest ih => rw [List.foldl_cons, ih, length_merge]

@[simp] theorem length_empty (roster : Roster) : (empty roster).tips.length = roster.size := List.length_replicate

@[simp] theorem length_mergeAll (roster : Roster) (tipsets : List Tipset) :
    (mergeAll roster tipsets).tips.length = roster.size := by
  rw [mergeAll, length_foldl_merge, length_empty]

@[simp] theorem length_advance (tipset : Tipset) (roster : Roster) (node : NodeId) (nGen : Generation) :
    (tipset.advance roster node nGen).tips.length = tipset.tips.length := by
  unfold advance
  split <;> simp

@[simp] theorem length_excluding (tipset : Tipset) (roster : Roster) (node : NodeId) :
    (tipset.excluding roster node).tips.length = tipset.tips.length := by
  unfold excluding
  split <;> simp

theorem tip_eq {roster : Roster} {node : NodeId} {position : Nat} (tipset : Tipset)
    (found : roster.position? node = some position) :
    tipset.tip roster node = (tipset.tips[position]?).join := by
  simp [tip, found]

theorem tip_of_stranger {roster : Roster} {node : NodeId} (tipset : Tipset)
    (absent : roster.position? node = none) : tipset.tip roster node = none := by
  simp [tip, absent]

theorem contains_of_tip {roster : Roster} {tipset : Tipset} {node : NodeId} {nGen : Generation}
    (found : tipset.tip roster node = some nGen) : roster.contains node = true := by
  cases place : roster.position? node with
  | none => simp [tip_of_stranger _ place] at found
  | some position => simp [Roster.contains, place]

@[simp] theorem tip_empty (roster : Roster) (node : NodeId) : (empty roster).tip roster node = none := by
  cases found : roster.position? node with
  | none => exact tip_of_stranger _ found
  | some position =>
      rw [tip_eq _ found]
      simp [empty, Roster.position?_bound found]

theorem tip_merge {roster : Roster} (a b : Tipset) (node : NodeId) (fits : a.tips.length = roster.size) :
    (a.merge b).tip roster node = higher (a.tip roster node) (b.tip roster node) := by
  cases found : roster.position? node with
  | none => simp [tip_of_stranger _ found, higher]
  | some position =>
      have bound : position < a.tips.length := by rw [fits]; exact Roster.position?_bound found
      simp [tip_eq _ found, merge, getElem?_mergeTips, List.getElem?_eq_getElem bound]

theorem tip_foldl_merge {roster : Roster} (tipsets : List Tipset) (first : Tipset) (node : NodeId)
    (fits : first.tips.length = roster.size) :
    (tipsets.foldl merge first).tip roster node =
      (tipsets.map (·.tip roster node)).foldl higher (first.tip roster node) := by
  induction tipsets generalizing first with
  | nil => rfl
  | cons next rest ih =>
      simp only [List.foldl_cons, List.map_cons]
      rw [ih _ (by simpa using fits), tip_merge _ _ _ fits]

theorem tip_mergeAll (roster : Roster) (tipsets : List Tipset) (node : NodeId) :
    (mergeAll roster tipsets).tip roster node = (tipsets.map (·.tip roster node)).foldl higher none := by
  rw [mergeAll, tip_foldl_merge _ _ _ (length_empty roster), tip_empty]

theorem tip_advance {roster : Roster} (tipset : Tipset) (creator node : NodeId) (nGen : Generation)
    (fits : tipset.tips.length = roster.size) :
    (tipset.advance roster creator nGen).tip roster node =
      if creator = node ∧ roster.contains node = true then higher (tipset.tip roster node) (some nGen)
      else tipset.tip roster node := by
  unfold advance
  cases found : roster.position? node with
  | none => cases roster.position? creator <;> simp [tip_of_stranger _ found, Roster.contains, found]
  | some position =>
      have bound : position < tipset.tips.length := by rw [fits]; exact Roster.position?_bound found
      cases own : roster.position? creator with
      | none =>
          have different : creator ≠ node := by
            rintro rfl
            simp [own] at found
          simp [different]
      | some place =>
          by_cases same : creator = node
          · subst same
            rw [found] at own
            cases own
            simp [tip_eq _ found, Roster.contains, found, List.getElem?_eq_getElem bound]
          · have apart : place ≠ position := by
              rintro rfl
              exact same (Roster.position?_injective own found)
            simp [tip_eq _ found, same, apart]

theorem tip_excluding {roster : Roster} (tipset : Tipset) (creator node : NodeId) :
    (tipset.excluding roster creator).tip roster node =
      if creator = node then none else tipset.tip roster node := by
  unfold excluding
  cases found : roster.position? node with
  | none => cases roster.position? creator <;> simp [tip_of_stranger _ found]
  | some position =>
      cases own : roster.position? creator with
      | none =>
          have different : creator ≠ node := by
            rintro rfl
            simp [own] at found
          simp [different]
      | some place =>
          by_cases same : creator = node
          · subst same
            rw [found] at own
            cases own
            by_cases bound : position < tipset.tips.length <;> simp [tip_eq _ found, bound]
          · have apart : place ≠ position := by
              rintro rfl
              exact same (Roster.position?_injective own found)
            simp [tip_eq _ found, same, apart]

theorem ext_of_tips {roster : Roster} {a b : Tipset} (fitsA : a.tips.length = roster.size)
    (fitsB : b.tips.length = roster.size)
    (same : ∀ node, roster.contains node = true → a.tip roster node = b.tip roster node) : a = b := by
  obtain ⟨as⟩ := a
  obtain ⟨bs⟩ := b
  congr 1
  apply List.ext_getElem (fitsA.trans fitsB.symm)
  intro place boundA boundB
  have bound : place < roster.entries.length := by
    rw [fitsA] at boundA
    exact boundA
  have found := roster.position?_of_place bound
  have equal := same _ (Roster.contains_iff.mpr ⟨_, List.getElem_mem bound, rfl⟩)
  rw [tip_eq _ found, tip_eq _ found] at equal
  simpa [List.getElem?_eq_getElem boundA, List.getElem?_eq_getElem boundB] using equal

/-! ### The highest of some numbers -/

def IsHighest (numbers : Generation → Prop) : Option Generation → Prop
  | none => ∀ nGen, ¬numbers nGen
  | some highest => numbers highest ∧ ∀ nGen, numbers nGen → nGen ≤ highest

theorem isHighest_iff (numbers : Generation → Prop) (tip : Option Generation) :
    IsHighest numbers tip ↔
      (∀ nGen, tip = some nGen → numbers nGen) ∧ ∀ nGen, numbers nGen → nGen.toNat < height tip := by
  cases tip with
  | none => simp [IsHighest]
  | some highest =>
      have bound : ∀ nGen : Generation, nGen ≤ highest ↔ nGen.toNat < highest.toNat + 1 := by
        intro nGen
        rw [UInt64.le_iff_toNat_le]
        omega
      simp only [IsHighest, height_some, Option.some.injEq, forall_eq', bound]

theorem IsHighest.unique {numbers : Generation → Prop} {a b : Option Generation} (highestA : IsHighest numbers a)
    (highestB : IsHighest numbers b) : a = b := by
  rw [isHighest_iff] at highestA highestB
  apply height_injective
  cases a with
  | none =>
      cases b with
      | none => rfl
      | some b =>
          have below := highestA.2 b (highestB.1 b rfl)
          simp at below
  | some a =>
      have below := highestB.2 a (highestA.1 a rfl)
      cases b with
      | none => simp at below
      | some b =>
          have above := highestA.2 b (highestB.1 b rfl)
          simp only [height_some] at above below ⊢
          omega

theorem IsHighest.congr {numbers others : Generation → Prop} {tip : Option Generation}
    (highest : IsHighest numbers tip) (same : ∀ nGen, numbers nGen ↔ others nGen) : IsHighest others tip := by
  have equal : numbers = others := funext fun nGen => propext (same nGen)
  exact equal ▸ highest

theorem isHighest_self (tip : Option Generation) : IsHighest (fun nGen => tip = some nGen) tip := by
  cases tip with
  | none => simp [IsHighest]
  | some number => simp [IsHighest]

theorem IsHighest.higher {numbers others : Generation → Prop} {a b : Option Generation}
    (highestA : IsHighest numbers a) (highestB : IsHighest others b) :
    IsHighest (fun nGen => numbers nGen ∨ others nGen) (higher a b) := by
  rw [isHighest_iff] at highestA highestB ⊢
  constructor
  · intro nGen chosen
    rcases higher_eq_or a b with left | right
    · exact Or.inl (highestA.1 nGen (left ▸ chosen))
    · exact Or.inr (highestB.1 nGen (right ▸ chosen))
  · intro nGen present
    rw [height_higher]
    rcases present with left | right
    · have below := highestA.2 nGen left
      omega
    · have below := highestB.2 nGen right
      omega

theorem IsHighest.foldl {α : Type} {numbers : α → Generation → Prop} {tip : α → Option Generation}
    (items : List α) (each : ∀ item ∈ items, IsHighest (numbers item) (tip item))
    {before : Generation → Prop} {start : Option Generation} (first : IsHighest before start) :
    IsHighest (fun nGen => before nGen ∨ ∃ item ∈ items, numbers item nGen)
      ((items.map tip).foldl Tipset.higher start) := by
  induction items generalizing before start with
  | nil => simpa using first
  | cons item rest ih =>
      have next := ih (fun other member => each other (by simp [member])) (first.higher (each item (by simp)))
      apply next.congr
      intro nGen
      simp only [List.mem_cons, exists_eq_or_imp, or_assoc]

theorem isHighest_mergeAll {α : Type} (roster : Roster) (node : NodeId) (items : List α) (tipset : α → Tipset)
    (numbers : α → Generation → Prop)
    (each : ∀ item ∈ items, IsHighest (numbers item) ((tipset item).tip roster node)) :
    IsHighest (fun nGen => ∃ item ∈ items, numbers item nGen)
      ((mergeAll roster (items.map tipset)).tip roster node) := by
  have nothing : IsHighest (fun _ => False) none := fun _ impossible => impossible
  have merged := IsHighest.foldl items each nothing
  rw [tip_mergeAll, List.map_map]
  exact merged.congr fun nGen => by simp

end Tipset

end Hashgraph
