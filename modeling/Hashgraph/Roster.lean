import Hashgraph.NodeId

/-! Weighted rosters. The members of a roster are distinct and their weights have a sum of 64 bits. -/

namespace Hashgraph

structure RosterEntry where
  node : NodeId
  weight : UInt64
deriving DecidableEq

inductive RosterError where
  | empty
  | duplicate (node : NodeId)
  | weightOverflow
deriving DecidableEq

def RosterError.message : RosterError → String
  | .empty => "Roster must contain at least one node"
  | .duplicate node => "Duplicate node in roster: " ++ node.text
  | .weightOverflow => "Total roster weight overflows u64"

namespace Roster

def weightSum : List RosterEntry → Nat
  | [] => 0
  | entry :: rest => entry.weight.toNat + weightSum rest

def scan (seen : List NodeId) (total : UInt64) : List RosterEntry → Except RosterError UInt64
  | [] => .ok total
  | entry :: rest =>
      if entry.node ∈ seen then .error (.duplicate entry.node)
      else if total.toNat + entry.weight.toNat < UInt64.size then
        scan (entry.node :: seen) (total + entry.weight) rest
      else .error .weightOverflow

theorem scan_ok {seen : List NodeId} {total result : UInt64} {entries : List RosterEntry}
    (accepted : scan seen total entries = .ok result) :
    (entries.map RosterEntry.node).Nodup ∧ (∀ entry ∈ entries, entry.node ∉ seen) ∧
      result.toNat = total.toNat + weightSum entries := by
  induction entries generalizing seen total with
  | nil =>
      simp only [scan, Except.ok.injEq] at accepted
      simp [accepted, weightSum]
  | cons entry rest ih =>
      simp only [scan] at accepted
      split at accepted
      · exact absurd accepted (by simp)
      rename_i fresh
      split at accepted
      · rename_i bound
        obtain ⟨distinct, unseen, sum⟩ := ih accepted
        refine ⟨?_, ?_, ?_⟩
        · simp only [List.map_cons, List.nodup_cons, List.mem_map, not_exists, not_and]
          exact ⟨fun other member equal => unseen other member (by simp [equal]), distinct⟩
        · intro other member
          rcases List.mem_cons.mp member with equal | later
          · exact equal ▸ fresh
          · exact fun seenBefore => unseen other later (List.mem_cons_of_mem _ seenBefore)
        · rw [sum, UInt64.toNat_add, Nat.mod_eq_of_lt bound]
          simp only [weightSum]
          omega
      · exact absurd accepted (by simp)

end Roster

structure Roster where
  entries : List RosterEntry
  total : UInt64
  nonempty : entries ≠ []
  distinct : (entries.map RosterEntry.node).Nodup
  total_eq : total.toNat = Roster.weightSum entries

namespace Roster

def ofEntries (entries : List RosterEntry) : Except RosterError Roster :=
  match entries with
  | [] => .error .empty
  | first :: rest =>
      match accepted : scan [] 0 (first :: rest) with
      | .error fault => .error fault
      | .ok total =>
          .ok ⟨first :: rest, total, by simp, (scan_ok accepted).1, by simpa using (scan_ok accepted).2.2⟩

def uniform (size : Nat) : Except RosterError Roster :=
  ofEntries ((List.range size).map fun number => ⟨⟨number.toUInt64⟩, 1⟩)

def size (roster : Roster) : Nat := roster.entries.length

def nodes (roster : Roster) : List NodeId := roster.entries.map RosterEntry.node

def position? (roster : Roster) (node : NodeId) : Option Nat :=
  roster.entries.findIdx? fun entry => entry.node = node

def contains (roster : Roster) (node : NodeId) : Bool := (roster.position? node).isSome

def entry? (roster : Roster) (node : NodeId) : Option RosterEntry :=
  roster.entries.find? fun entry => entry.node = node

def weight (roster : Roster) (node : NodeId) : UInt64 := ((roster.entry? node).map RosterEntry.weight).getD 0

end Roster

def isSupermajority (part whole : UInt64) : Bool := whole.toNat * 2 < part.toNat * 3

end Hashgraph
