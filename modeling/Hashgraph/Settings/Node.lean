import Hashgraph.Creation.Settings
import Hashgraph.Document.Decode
import Hashgraph.Document.Toml.Quoted
import Hashgraph.EventWindow

/-! All settings of a node, read from documents and written as TOML. -/

namespace Hashgraph

inductive LogFormat where
  | text
  | json
deriving DecidableEq, Inhabited

namespace LogFormat

def all : List LogFormat := [.text, .json]

def name : LogFormat → String
  | .text => "text"
  | .json => "json"

def inspect : LogFormat → String
  | .text => "Text"
  | .json => "Json"

end LogFormat

structure NodeSettings where
  selfId : NodeId
  name : String
  mode : AncientMode
  creation : CreationSettings
  logLevel : String
  logFormat : LogFormat

namespace NodeSettings

def default : NodeSettings :=
  ⟨⟨0⟩, "tipset-node", .birthRoundThreshold, .default, "info", .text⟩

end NodeSettings

namespace Convention

def namedVariant? {α : Type} (convention : Convention) (all : List α) (nameOf : α → String)
    (document : Document) : Option α :=
  (convention.variant? (all.map nameOf) document).bind fun name => all.find? fun variant => nameOf variant = name

def ancientMode? (convention : Convention) (document : Document) : Option AncientMode :=
  convention.namedVariant? [.generationThreshold, .birthRoundThreshold] AncientMode.name document

def logFormat? (convention : Convention) (document : Document) : Option LogFormat :=
  convention.namedVariant? LogFormat.all LogFormat.name document

def nodeId? (convention : Convention) (document : Document) : Option NodeId :=
  (convention.word? document).map NodeId.mk

def creationFields : List String :=
  ["max_creation_rate", "creation_attempt_rate", "anti_selfishness_factor",
    "maximum_permissible_unhealthy_duration_ms", "max_transaction_bytes_per_event", "rng_seed"]

def creationSettings? (convention : Convention) (document : Document) : Option CreationSettings := do
  let fields ← convention.record? creationFields document
  let absent := CreationSettings.default
  let rate ← fieldOr? fields "max_creation_rate" absent.maxCreationRate convention.float?
  let attempts ← fieldOr? fields "creation_attempt_rate" absent.creationAttemptRate convention.float?
  let factor ← fieldOr? fields "anti_selfishness_factor" absent.antiSelfishnessFactor convention.float?
  let unhealthy ←
    fieldOr? fields "maximum_permissible_unhealthy_duration_ms" absent.maxUnhealthyMillis convention.word?
  let bytes ← fieldOr? fields "max_transaction_bytes_per_event" absent.maxTransactionBytes convention.word?
  let seed ← fieldOr? fields "rng_seed" absent.seed convention.word?
  return ⟨rate, attempts, factor, unhealthy, bytes, seed⟩

def identity? (convention : Convention) (document : Document) : Option (NodeId × String × AncientMode) := do
  let fields ← convention.record? ["self_id", "name", "ancient_mode"] document
  let absent := NodeSettings.default
  let selfId ← fieldOr? fields "self_id" absent.selfId convention.nodeId?
  let name ← fieldOr? fields "name" absent.name convention.text?
  let mode ← fieldOr? fields "ancient_mode" absent.mode convention.ancientMode?
  return (selfId, name, mode)

def logging? (convention : Convention) (document : Document) : Option (String × LogFormat) := do
  let fields ← convention.record? ["level", "format"] document
  let absent := NodeSettings.default
  let level ← fieldOr? fields "level" absent.logLevel convention.text?
  let format ← fieldOr? fields "format" absent.logFormat convention.logFormat?
  return (level, format)

def nodeSettings? (convention : Convention) (document : Document) : Option NodeSettings := do
  let fields ← convention.record? ["node", "event_creation", "logging"] document
  let absent := NodeSettings.default
  let (selfId, name, mode) ← fieldOr? fields "node" (absent.selfId, absent.name, absent.mode) convention.identity?
  let creation ← fieldOr? fields "event_creation" absent.creation convention.creationSettings?
  let (level, format) ← fieldOr? fields "logging" (absent.logLevel, absent.logFormat) convention.logging?
  return ⟨selfId, name, mode, creation, level, format⟩

end Convention

namespace NodeSettings

def fitsToml (value : UInt64) : Bool := value.toNat < Nat.pow 2 63

def line (key value : String) : String := key ++ " = " ++ value ++ "\n"

def wordLine (key : String) (value : UInt64) : String := line key (digitText value.toNat)

def floatLine (key : String) (value : Float) : String := line key (FloatStyle.pointed.write value)

def toToml? (settings : NodeSettings) : Option String :=
  let creation := settings.creation
  let words := [settings.selfId.number, creation.maxUnhealthyMillis, creation.maxTransactionBytes, creation.seed]
  if words.all fitsToml then
    some <| String.join
      ["[node]\n", wordLine "self_id" settings.selfId.number, line "name" (Toml.quoted settings.name),
        line "ancient_mode" (Toml.quoted settings.mode.name), "\n[event_creation]\n",
        floatLine "max_creation_rate" creation.maxCreationRate,
        floatLine "creation_attempt_rate" creation.creationAttemptRate,
        floatLine "anti_selfishness_factor" creation.antiSelfishnessFactor,
        wordLine "maximum_permissible_unhealthy_duration_ms" creation.maxUnhealthyMillis,
        wordLine "max_transaction_bytes_per_event" creation.maxTransactionBytes,
        wordLine "rng_seed" creation.seed, "\n[logging]\n", line "level" (Toml.quoted settings.logLevel),
        line "format" (Toml.quoted settings.logFormat.name)]
  else none

end NodeSettings

end Hashgraph
