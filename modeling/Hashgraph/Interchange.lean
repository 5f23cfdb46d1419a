import Hashgraph.Advancement
import Hashgraph.Document.Decode
import Hashgraph.EventWindow
import Hashgraph.Node.Status
import Hashgraph.Roster
import Hashgraph.Settings.Node

/-! The values that nodes exchange as documents. A node number and a signature stand for themselves, a
record is a table of its fields, and a status or a mode is its name. -/

namespace Hashgraph

def bytesDocument (bytes : Bytes) : Document := .list (bytes.map fun byte => .nat byte.toNat)

def NodeId.toDocument (node : NodeId) : Document := .word node.number

def EventHash.toDocument (hash : EventHash) : Document := .table [("hash", bytesDocument hash.toBytes)]

def Signature.toDocument (signature : Signature) : Document := bytesDocument signature.bytes

def RosterEntry.toDocument (entry : RosterEntry) : Document :=
  .table [("node_id", entry.node.toDocument), ("weight", .word entry.weight)]

def EventDescriptor.toDocument (descriptor : EventDescriptor) : Document :=
  .table
    [("hash", descriptor.hash.toDocument), ("creator", descriptor.creator.toDocument),
      ("birth_round", .word descriptor.birthRound), ("generation", .word descriptor.generation)]

def Advancement.toDocument (advancement : Advancement) : Document :=
  .table
    [("advancement_weight", .word advancement.weight),
      ("zero_weight_advancement_count", .word advancement.zeroWeightCount)]

def EventWindow.toDocument (window : EventWindow) : Document :=
  .table
    [("latest_consensus_round", .word window.latestConsensusRound),
      ("new_event_birth_round", .word window.newEventBirthRound),
      ("ancient_threshold", .word window.ancientThreshold), ("ancient_mode", .text window.mode.name)]

namespace Convention

def signature? (_convention : Convention) (document : Document) : Option Signature :=
  (bytes? document).map Signature.mk

def eventHash? (convention : Convention) (document : Document) : Option EventHash := do
  let fields ← convention.record? ["hash"] document
  let bytes ← (fields "hash").bind bytes?
  EventHash.ofBytes? bytes

def rosterEntry? (convention : Convention) (document : Document) : Option RosterEntry := do
  let fields ← convention.record? ["node_id", "weight"] document
  let node ← (fields "node_id").bind convention.nodeId?
  let weight ← (fields "weight").bind convention.word?
  return ⟨node, weight⟩

def eventDescriptor? (convention : Convention) (document : Document) : Option EventDescriptor := do
  let fields ← convention.record? ["hash", "creator", "birth_round", "generation"] document
  let hash ← (fields "hash").bind convention.eventHash?
  let creator ← (fields "creator").bind convention.nodeId?
  let birthRound ← (fields "birth_round").bind convention.word?
  let generation ← (fields "generation").bind convention.word?
  return ⟨creator, birthRound, generation, hash⟩

def advancement? (convention : Convention) (document : Document) : Option Advancement := do
  let fields ← convention.record? ["advancement_weight", "zero_weight_advancement_count"] document
  let weight ← (fields "advancement_weight").bind convention.word?
  let count ← (fields "zero_weight_advancement_count").bind convention.word?
  return ⟨weight, count⟩

def eventWindow? (convention : Convention) (document : Document) : Option EventWindow := do
  let fields ← convention.record? windowFields document
  let latest ← (fields "latest_consensus_round").bind convention.word?
  let birth ← (fields "new_event_birth_round").bind convention.word?
  let threshold ← (fields "ancient_threshold").bind convention.word?
  let mode ← (fields "ancient_mode").bind convention.ancientMode?
  return ⟨latest, birth, threshold, mode⟩
where
  windowFields : List String :=
    ["latest_consensus_round", "new_event_birth_round", "ancient_threshold", "ancient_mode"]

def platformStatus? (convention : Convention) (document : Document) : Option PlatformStatus :=
  convention.namedVariant? PlatformStatus.all PlatformStatus.name document

def creationStatus? (convention : Convention) (document : Document) : Option CreationStatus :=
  convention.namedVariant? CreationStatus.all CreationStatus.name document

end Convention

end Hashgraph
