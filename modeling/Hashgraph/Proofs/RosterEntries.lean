import Hashgraph.Proofs.Gains

/-! Which lists of entries make a roster. One that is refused has a first entry at which a node is repeated or the
weights leave the range of the words, and the refusal names what is wrong there; a roster knows the exact sum of
its weights, and finds every member at its own position. -/

namespace Hashgraph

namespace Roster

/-- What is wrong with an entry behind the given ones. A repeated node counts before the sum of the weights. -/
def faultBehind (before : List RosterEntry) (entry : RosterEntry) : Option RosterError :=
  if entry.node ∈ before.map RosterEntry.node then some (.duplicate entry.node)
  else if UInt64.size ≤ weightSum before + entry.weight.toNat then some .weightOverflow
  else none

def faultAt (entries : List RosterEntry) (position : Nat) : Option RosterError :=
  entries[position]?.bind (faultBehind (entries.take position))

def IsFirstFault (entries : List RosterEntry) (fault : RosterError) : Prop :=
  ∃ position, faultAt entries position = some fault ∧ ∀ earlier < position, faultAt entries earlier = none

theorem lt_length_of_faultAt {entries : List RosterEntry} {position : Nat} {fault : RosterError}
    (found : faultAt entries position = some fault) : position < entries.length := by
  unfold faultAt at found
  by_contra beyond
  simp [List.getElem?_eq_none (Nat.le_of_not_lt beyond)] at found

theorem faultAt_length (before rest : List RosterEntry) (entry : RosterEntry) :
    faultAt (before ++ entry :: rest) before.length = faultBehind before entry := by
  simp [faultAt]

theorem isFirstFault_iff {entries : List RosterEntry} {position : Nat} {found fault : RosterError}
    (here : faultAt entries position = some found) (sound : ∀ earlier < position, faultAt entries earlier = none) :
    IsFirstFault entries fault ↔ found = fault := by
  constructor
  · rintro ⟨place, there, before⟩
    have first : ¬position < place := fun later => by simp [before position later] at here
    have last : ¬place < position := fun earlier => by simp [sound place earlier] at there
    have same : place = position := by omega
    rw [same, here] at there
    exact Option.some.inj there
  · rintro rfl
    exact ⟨position, here, sound⟩

structure Scanned (before : List RosterEntry) (seen : List NodeId) (total : UInt64) : Prop where
  seen_iff : ∀ node, node ∈ seen ↔ node ∈ before.map RosterEntry.node
  total_eq : total.toNat = weightSum before

theorem Scanned.scan_cons {before rest : List RosterEntry} {seen : List NodeId} {total : UInt64}
    (scanned : Scanned before seen total) (entry : RosterEntry) :
    scan seen total (entry :: rest) =
      match faultBehind before entry with
      | some fault => .error fault
      | none => scan (entry.node :: seen) (total + entry.weight) rest := by
  simp only [scan, faultBehind, scanned.seen_iff, scanned.total_eq]
  split
  · rfl
  · by_cases fits : weightSum before + entry.weight.toNat < UInt64.size
    · rw [if_pos fits, if_neg (Nat.not_le_of_lt fits)]
    · rw [if_neg fits, if_pos (Nat.le_of_not_lt fits)]

theorem Scanned.concat {before : List RosterEntry} {seen : List NodeId} {total : UInt64}
    (scanned : Scanned before seen total) {entry : RosterEntry} (sound : faultBehind before entry = none) :
    Scanned (before ++ [entry]) (entry.node :: seen) (total + entry.weight) := by
  constructor
  · intro node
    simp [scanned.seen_iff, or_comm]
  · have fits : total.toNat + entry.weight.toNat < UInt64.size := by
      rw [scanned.total_eq]
      by_contra full
      simp only [faultBehind, Nat.le_of_not_lt full, if_true] at sound
      split at sound <;> simp at sound
    rw [UInt64.toNat_add, Nat.mod_eq_of_lt fits, scanned.total_eq]
    simp [weightSum_append, weightSum]

theorem Scanned.error_iff {before rest : List RosterEntry} {seen : List NodeId} {total : UInt64}
    (scanned : Scanned before seen total)
    (sound : ∀ position < before.length, faultAt (before ++ rest) position = none) (fault : RosterError) :
    scan seen total rest = .error fault ↔ IsFirstFault (before ++ rest) fault := by
  induction rest generalizing before seen total with
  | nil =>
      simp only [scan, reduceCtorEq, false_iff]
      rintro ⟨position, there, _⟩
      have bound := lt_length_of_faultAt there
      rw [List.append_nil] at bound
      rw [sound position bound] at there
      simp at there
  | cons entry rest ih =>
      have here := faultAt_length before rest entry
      rw [scanned.scan_cons entry]
      cases found : faultBehind before entry with
      | some first =>
          rw [found] at here
          rw [isFirstFault_iff here sound]
          simp
      | none =>
          -- The scan goes on, and so does the search for a fault, behind one entry more.
          rw [found] at here
          have whole : before ++ entry :: rest = (before ++ [entry]) ++ rest := by simp
          rw [whole] at here sound ⊢
          apply ih (scanned.concat found)
          intro position bound
          rw [List.length_append, List.length_singleton] at bound
          by_cases last : position = before.length
          · rw [last, here]
          · exact sound position (by omega)

theorem not_isFirstFault_of_valid {entries : List RosterEntry} (distinct : (entries.map RosterEntry.node).Nodup)
    (bounded : weightSum entries < UInt64.size) (fault : RosterError) : ¬IsFirstFault entries fault := by
  rintro ⟨position, found, _⟩
  have bound := lt_length_of_faultAt found
  rw [faultAt, List.getElem?_eq_getElem bound, Option.bind_some] at found
  have parts := List.take_append_drop position entries
  rw [List.drop_eq_getElem_cons bound] at parts
  rw [← parts, List.map_append, List.map_cons] at distinct
  rw [← parts, weightSum_append, weightSum] at bounded
  have fresh : entries[position].node ∉ (entries.take position).map RosterEntry.node := fun repeated =>
    (List.nodup_append.mp distinct).2.2 _ repeated _ List.mem_cons_self rfl
  have fits : ¬UInt64.size ≤ weightSum (entries.take position) + entries[position].weight.toNat := by omega
  rw [faultBehind, if_neg fresh, if_neg fits] at found
  cases found

theorem entries_of_ofEntries {entries : List RosterEntry} {roster : Roster}
    (accepted : ofEntries entries = .ok roster) : roster.entries = entries := by
  cases entries with
  | nil => cases accepted
  | cons first rest =>
      simp only [ofEntries] at accepted
      split at accepted
      · cases accepted
      · cases accepted
        rfl

theorem ofEntries_error_iff {entries : List RosterEntry} {fault : RosterError} :
    ofEntries entries = .error fault ↔ (entries = [] ∧ fault = .empty) ∨ IsFirstFault entries fault := by
  cases entries with
  | nil =>
      have none_ : ¬IsFirstFault [] fault := fun ⟨_, found, _⟩ => absurd (lt_length_of_faultAt found) (by simp)
      simp [ofEntries, none_, eq_comm]
  | cons first rest =>
      have scanned : Scanned [] [] 0 := ⟨by simp, rfl⟩
      have scan_iff : scan [] 0 (first :: rest) = .error fault ↔ IsFirstFault (first :: rest) fault :=
        scanned.error_iff (by simp) fault
      simp only [← scan_iff, reduceCtorEq, false_and, false_or, ofEntries]
      split
      · rename_i other failed
        simp [failed]
      · rename_i total accepted
        simp [accepted]

theorem exists_ofEntries_iff {entries : List RosterEntry} :
    (∃ roster, ofEntries entries = .ok roster) ↔
      entries ≠ [] ∧ (entries.map RosterEntry.node).Nodup ∧ weightSum entries < UInt64.size := by
  constructor
  · rintro ⟨roster, accepted⟩
    rw [← entries_of_ofEntries accepted]
    exact ⟨roster.nonempty, roster.distinct, roster.total_eq ▸ roster.total.toNat_lt_size⟩
  · rintro ⟨inhabited, distinct, bounded⟩
    cases result : ofEntries entries with
    | ok roster => exact ⟨roster, rfl⟩
    | error fault =>
        rcases ofEntries_error_iff.mp result with ⟨nothing, _⟩ | first
        · exact absurd nothing inhabited
        · exact absurd first (not_isFirstFault_of_valid distinct bounded fault)

theorem position?_eq_some_iff {roster : Roster} {node : NodeId} {position : Nat} :
    roster.position? node = some position ↔ (roster.entries[position]?).map RosterEntry.node = some node := by
  constructor
  · intro found
    simpa [nodes] using node_at_position found
  · intro named
    obtain ⟨entry, there, rfl⟩ := Option.map_eq_some_iff.mp named
    obtain ⟨bound, rfl⟩ := List.getElem?_eq_some_iff.mp there
    exact roster.position?_of_place bound

theorem position?_eq_none_iff {roster : Roster} {node : NodeId} :
    roster.position? node = none ↔ node ∉ roster.entries.map RosterEntry.node := by
  simp [position?, List.findIdx?_eq_none_iff]

theorem weight_of_stranger {roster : Roster} {node : NodeId} (absent : node ∉ roster.entries.map RosterEntry.node) :
    roster.weight node = 0 := by
  have nowhere : roster.entry? node = none := by simpa [ entry?] using absent
  simp [weight, nowhere]

/-- A list of entries makes a roster just if it is not empty, its nodes are distinct and the sum of its weights is a
number of 64 bits. Otherwise, unless it is empty, the refusal is the fault of the first position that has one. The
roster has these entries and the exact sum, finds each node just at the position of its entry, and knows the weight
of every entry, which is zero for other nodes. -/
theorem rosters_are_the_valid_lists_of_entries (entries : List RosterEntry) :
    ((∃ roster, ofEntries entries = .ok roster) ↔
      entries ≠ [] ∧ (entries.map RosterEntry.node).Nodup ∧ weightSum entries < UInt64.size) ∧
    (∀ fault, ofEntries entries = .error fault ↔ (entries = [] ∧ fault = .empty) ∨ IsFirstFault entries fault) ∧
    ∀ roster, ofEntries entries = .ok roster →
      roster.entries = entries ∧ roster.total.toNat = weightSum entries ∧
        (∀ node position, roster.position? node = some position ↔
          (entries[position]?).map RosterEntry.node = some node) ∧
        (∀ node, roster.position? node = none ↔ node ∉ entries.map RosterEntry.node) ∧
        (∀ entry ∈ entries, roster.weight entry.node = entry.weight) ∧
        ∀ node, node ∉ entries.map RosterEntry.node → roster.weight node = 0 := by
  refine ⟨exists_ofEntries_iff, fun fault => ofEntries_error_iff, ?_⟩
  intro roster accepted
  obtain rfl := entries_of_ofEntries accepted
  exact ⟨rfl, roster.total_eq, fun _ _ => position?_eq_some_iff, fun _ => position?_eq_none_iff,
    fun _ => weight_of_mem, fun _ => weight_of_stranger⟩

/-- A roster with the greatest sum of weights, and the same entries with a node repeated where the sum is too great
or behind that. -/
theorem greatest_roster_takes_no_further_weight :
    let heavy : List RosterEntry := [⟨⟨7⟩, 0xfffffffffffffffe⟩, ⟨⟨4⟩, 1⟩]
    (∃ roster, ofEntries heavy = .ok roster ∧ roster.total = 0xffffffffffffffff ∧
        roster.position? ⟨4⟩ = some 1 ∧ roster.position? ⟨5⟩ = none ∧ roster.weight ⟨4⟩ = 1 ∧ roster.weight ⟨5⟩ = 0) ∧
      ofEntries (heavy ++ [⟨⟨7⟩, 1⟩, ⟨⟨5⟩, 1⟩]) = .error (.duplicate ⟨7⟩) ∧
      ofEntries (heavy ++ [⟨⟨5⟩, 1⟩, ⟨⟨7⟩, 1⟩]) = .error .weightOverflow := by
  intro heavy
  obtain ⟨valid, _, laws⟩ := rosters_are_the_valid_lists_of_entries heavy
  obtain ⟨roster, accepted⟩ := valid.mpr (by decide)
  obtain ⟨_, total, position, stranger, weight, weightless⟩ := laws roster accepted
  refine ⟨⟨roster, accepted, ?_, ?_, ?_, ?_, ?_⟩, ?_, ?_⟩
  · exact UInt64.toNat_inj.mp (total.trans (by decide))
  · exact (position ⟨4⟩ 1).mpr (by decide)
  · exact (stranger ⟨5⟩).mpr (by decide)
  · exact weight ⟨⟨4⟩, 1⟩ (by decide)
  · exact weightless ⟨5⟩ (by decide)
  · exact ((rosters_are_the_valid_lists_of_entries _).2.1 _).mpr (Or.inr ⟨2, by decide, by decide⟩)
  · exact ((rosters_are_the_valid_lists_of_entries _).2.1 _).mpr (Or.inr ⟨2, by decide, by decide⟩)

end Roster

end Hashgraph
