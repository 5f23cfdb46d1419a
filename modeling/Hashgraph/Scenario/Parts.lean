import Hashgraph.Interchange
import Hashgraph.Node.Rule
import Hashgraph.Node.TransactionPool
import Hashgraph.Scenario.Field

/-! The parts that the document of a scenario describes: its roster, its windows, its settings, its
keys, its statuses and rules, and where the transactions of its events come from. -/

namespace Hashgraph

namespace Document

def rosterEntries (record : Document) : Except Fault (List RosterEntry) := do
  let weights ← record.wordsAt "weights"
  let pairs ← record.either "roster" [] (listOf? pair?)
  return weights.mapIdx (fun number weight => ⟨⟨number.toUInt64⟩, weight⟩) ++
    pairs.map fun (number, weight) => ⟨⟨number⟩, weight⟩

def roster (record : Document) : Except Fault Roster := do
  match ← record.may "equal" word? with
  | some size => (Roster.uniform size.toNat).mapError .roster
  | none => (Roster.ofEntries (← record.rosterEntries)).mapError .roster

def window (record : Document) (mode : AncientMode) : Except Fault EventWindow := do
  let latest ← record.wordAt "latest"
  let birth ← record.wordAt "birth"
  let threshold ← record.wordAt "threshold"
  (EventWindow.ofParts latest birth threshold (← record.modeOr mode)).mapError .window

def applySetting (settings : CreationSettings) (entry : String × Document) : Except Fault CreationSettings :=
  let (name, value) := entry
  let double := Fault.check (.badField name) value.double?
  let word := Fault.check (.badField name) value.word?
  match name with
  | "max_creation_rate" => double.map fun rate => { settings with maxCreationRate := rate }
  | "creation_attempt_rate" => double.map fun rate => { settings with creationAttemptRate := rate }
  | "anti_selfishness_factor" => double.map fun factor => { settings with antiSelfishnessFactor := factor }
  | "maximum_permissible_unhealthy_duration_ms" => word.map fun span => { settings with maxUnhealthyMillis := span }
  | "max_transaction_bytes_per_event" => word.map fun size => { settings with maxTransactionBytes := size }
  | "rng_seed" => word.map fun seed => { settings with seed := seed }
  | _ => .error (.badField name)

def isGiven : Document → Bool
  | .null => false
  | _ => true

def creationSettings (record : Document) : Except Fault CreationSettings :=
  match record.given? "config" with
  | none => .ok .default
  | some (.table entries) => (entries.filter fun entry => isGiven entry.2).foldlM applySetting .default
  | some _ => .error (.badField "config")

def keyPair (record : Document) (node : Except Fault NodeId) : Except Fault Ed25519.KeyPair := do
  match ← record.may "seed" seed? with
  | some seed => return .ofSeed seed
  | none =>
      let master ← record.need "master" seed?
      return .ofMaster master (← node)

def signers (record : Document) : Except Fault (NodeId → Signer) :=
  match record.given? "signer" with
  | none => .ok fun _ => .absent
  | some signer => do
      match ← signer.may "seed" seed? with
      | some seed => return fun _ => .ed25519 (.ofSeed seed)
      | none =>
          let master ← signer.need "master" seed?
          return fun node => .ed25519 (.ofMaster master node)

def advancementAt (record : Document) (field : String) : Except Fault Advancement :=
  (record.need field pair?).map fun (weight, count) => ⟨weight, count⟩

def platformStatusAt (record : Document) (field : String) : Except Fault PlatformStatus :=
  Fault.check .malformed ((record.given? field).bind Convention.strict.platformStatus?)

def creationStatusAt (record : Document) (field : String) : Except Fault CreationStatus :=
  Fault.check .malformed ((record.given? field).bind Convention.strict.creationStatus?)

def rule (record : Document) : Except Fault Rule := do
  match ← record.textAt "rule" with
  | "rate" => return .ofRate (← record.need "rate" double?)
  | "status" => return .platformStatus
  | "health" => return .platformHealth (← record.spanAt "ms")
  | _ => throw (.badField "rule")

def countedTransactions (count : Nat) : List Transaction :=
  (List.range count).map fun number => ⟨[number.toUInt8]⟩

def supply (record : Document) : Except Fault (TransactionPool → List Transaction × TransactionPool) :=
  match record.given? "supplier" with
  | none => .ok fun pool => ([], pool)
  | some supplier => do
      match ← supplier.may "fixed" word? with
      | some count => return fun pool => (countedTransactions count.toNat, pool)
      | none => return TransactionPool.drain (← supplier.natAt "pool_max_bytes")

end Document

end Hashgraph
