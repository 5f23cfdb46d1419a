import Hashgraph.Interchange
import Hashgraph.Network.Report
import Hashgraph.Node.Manager

/-! What a scenario shows of the values it plays with. -/

namespace Hashgraph

abbrev Fields := List (String × Document)

def Document.hex (bytes : Bytes) : Document := .text (Bytes.toHex bytes)

def Document.texts (texts : List String) : Document := .list (texts.map Document.text)

def Document.textOf {α : Type} (text : α → String) : Option α → Document := Document.ofOption fun value => .text (text value)

def Document.wordOf : Option UInt64 → Document := Document.ofOption Document.word

def floatBits (value : Float) : String :=
  let bits : Nat := if value.isNaN then 0x7ff8000000000000 else value.toBits.toNat
  "f64:" ++ Bytes.toHex (Bytes.bigEndian 8 bits)

namespace Document

mutual

def exact : Document → Document
  | .float value => .text (floatBits value)
  | .list items => .list (exactItems items)
  | .table entries => .table (exactEntries entries)
  | other => other

def exactItems : List Document → List Document
  | [] => []
  | item :: rest => exact item :: exactItems rest

def exactEntries : List (String × Document) → List (String × Document)
  | [] => []
  | (key, value) :: rest => (key, exact value) :: exactEntries rest

end

end Document

def Instant.view (time : Instant) : Document := .list [.int time.seconds, .int time.subsecond]

def Span.view (span : Span) : Document := .list [.nat span.parts.1, .nat span.parts.2]

def Advancement.view (advancement : Advancement) : Document :=
  .list [.word advancement.weight, .word advancement.zeroWeightCount]

def EventDescriptor.views (descriptors : List EventDescriptor) : Document :=
  .texts (descriptors.map EventDescriptor.text)

def orderView : Ordering → Document
  | .lt => .int (-1)
  | .eq => .int 0
  | .gt => .int 1

def NodeId.fields (node : NodeId) : Fields :=
  [("id", node.toDocument), ("display", .text node.text), ("debug", .text node.inspect),
    ("padded", .text (padLeft 12 node.text ++ "|"))]

def EventHash.fields (hash : EventHash) : Fields :=
  [("hex", .text hash.hex), ("display", .text hash.text), ("debug", .text hash.inspect)]

def Signature.fields (signature : Signature) : Fields :=
  [("debug", .text signature.inspect), ("empty", .bool signature.isAbsent), ("len", .nat signature.bytes.length)]

def Transaction.fields (transaction : Transaction) : Fields :=
  [("debug", .text transaction.inspect), ("empty", .bool (transaction.size = 0)), ("len", .nat transaction.size),
    ("payload", .hex transaction.payload)]

def Transaction.shortView (transaction : Transaction) : Document :=
  if transaction.size ≤ 32 then .hex transaction.payload else .text transaction.inspect

def Roster.fields (roster : Roster) : Fields :=
  [("len", .nat roster.size), ("empty", .bool (roster.size = 0)), ("total", .word roster.total),
    ("node_ids", .list (roster.nodes.map NodeId.toDocument)),
    ("entries", .list (roster.entries.map fun entry => .list [entry.node.toDocument, .word entry.weight]))]

def Roster.view (roster : Roster) (node : NodeId) : Document :=
  .table
    [("index", Document.ofOption Document.nat (roster.position? node)), ("contains", .bool (roster.contains node)),
      ("weight", .word (roster.weight node))]

def EventWindow.fields? (window : EventWindow) : Option Fields := do
  let pending ← window.pendingRound?
  return [("latest", .word window.latestConsensusRound), ("birth", .word window.newEventBirthRound),
    ("threshold", .word window.ancientThreshold), ("mode", .text window.mode.inspect),
    ("genesis", .bool window.isGenesis), ("pending", .word pending), ("display", .text window.text),
    ("debug", .text window.inspect), ("first_indicator", .word window.mode.firstIndicator)]

def EventWindow.view (window : EventWindow) (descriptor : EventDescriptor) : Document :=
  .list [.bool (window.isAncient descriptor), .word (window.mode.indicator descriptor), .text descriptor.text]

def Event.sortedViews (events : List Event) : Document :=
  .texts ((events.map Event.text).mergeSort fun a b => a ≤ b)

def Event.fields (event : Event) : Fields :=
  [("event", .text event.text), ("hash", .text event.hash.hex),
    ("self_parent", .textOf EventDescriptor.text event.selfParent),
    ("others", EventDescriptor.views event.otherParents), ("time", event.timeCreated.view),
    ("txs", .list (event.transactions.map fun transaction => .hex transaction.payload)),
    ("signature", .hex event.signature.bytes)]

def Event.view (event : Event) : Document := .table event.fields

def Event.details? (event : Event) (window : EventWindow) : Option Fields := do
  let modes : List AncientMode := [.birthRoundThreshold, .generationThreshold]
  let next ← nextGeneration? [event.descriptor]
  return event.fields ++
    [("descriptor", .text event.descriptor.text), ("creator", event.creator.toDocument),
      ("birth_round", .word event.birthRound), ("generation", .word event.generation),
      ("ngen", .wordOf event.nGen), ("has_ngen", .bool event.nGen.isSome),
      ("tx_count", .nat event.transactions.length),
      ("tx_debug", .text ("[" ++ ", ".intercalate (event.transactions.map Transaction.inspect) ++ "]")),
      ("all_parents", EventDescriptor.views event.parents),
      ("next_generation", .word next),
      ("indicators", .list (modes.map fun mode => .word (mode.indicator event.descriptor))),
      ("ancient", .bool (window.isAncient event.descriptor))]

def Tipset.fields (tipset : Tipset) (roster : Roster) : Fields :=
  [("display", .text (tipset.text roster)), ("debug", .text ("Tipset" ++ tipset.text roster)),
    ("len", .nat tipset.tips.length), ("empty", .bool tipset.tips.isEmpty), ("total", .word roster.total),
    ("tips", .list ((tipset.entries roster).map fun (node, tip) => .list [node.toDocument, .wordOf tip]))]

def Ancestry.fields (ancestry : Ancestry) : Fields :=
  [("len", .nat ancestry.size), ("empty", .bool (ancestry.size = 0)), ("window", .text ancestry.window.text)]

def ChildlessEvents.fields (childless : ChildlessEvents) : Fields :=
  [("childless", Event.sortedViews childless.events), ("len", .nat childless.size),
    ("empty", .bool childless.isEmpty)]

def Consensus.fields (consensus : Consensus) : Fields :=
  [("len", .nat consensus.size), ("max_generation", .word consensus.maxGeneration),
    ("window", .text consensus.window.text)]

def HoldBuffer.fields (buffer : HoldBuffer) : Fields :=
  [("len", .nat buffer.count), ("empty", .bool (buffer.count = 0)), ("gauge", .int buffer.gauge),
    ("window", .text buffer.window.text)]

def TransactionPool.fields (pool : TransactionPool) : Fields :=
  [("len", .nat pool.size), ("empty", .bool pool.isEmpty), ("buffered", .bool (!pool.isEmpty))]

def CreationCounters.countsView (counters : CreationCounters) (node : NodeId) : Document :=
  .list [.nat (counters.parentCounts node).1, .nat (counters.parentCounts node).2]

def CreationStatus.view (status : CreationStatus) : Document := .texts [status.text, status.name]

def NodeReport.view (report : NodeReport) : Document :=
  .table [("id", report.node.toDocument), ("weight", .word report.weight), ("stats", report.stats.toDocument)]

def SimulationReport.fields (report : SimulationReport) : Fields :=
  [("steps", .nat report.steps), ("events_created", .nat report.eventsCreated),
    ("latest_consensus_round", .word report.latestConsensusRound),
    ("max_generation", .word report.maxGeneration), ("nodes", .list (report.nodes.map NodeReport.view)),
    ("display", .text report.text)]

def CreationSettings.view (settings : CreationSettings) : Document :=
  .table
    [("max_creation_rate", .float settings.maxCreationRate),
      ("creation_attempt_rate", .float settings.creationAttemptRate),
      ("anti_selfishness_factor", .float settings.antiSelfishnessFactor),
      ("maximum_permissible_unhealthy_duration_ms", .word settings.maxUnhealthyMillis),
      ("max_transaction_bytes_per_event", .word settings.maxTransactionBytes), ("rng_seed", .word settings.seed)]

def NodeSettings.view (settings : NodeSettings) : Document :=
  .table
    [("node", .table
        [("self_id", settings.selfId.toDocument), ("name", .text settings.name),
          ("ancient_mode", .text settings.mode.inspect)]),
      ("event_creation", settings.creation.view),
      ("logging", .table [("level", .text settings.logLevel), ("format", .text settings.logFormat.inspect)])]

def listingText (listing : String × List String) : String :=
  listing.1 ++ String.join (listing.2.mergeSort fun a b => a ≤ b)

def Progress.fields (progress : Progress) (roster : Roster) : Fields :=
  [("snapshot", .text (progress.snapshot.text roster)), ("previous", progress.previous.view),
    ("scores", .list (roster.nodes.map fun node => .nat (progress.score roster node))),
    ("max", .nat progress.maxScore)]

def Creator.fields (creator : Creator) : Fields :=
  ("childless", Event.sortedViews creator.childless.events) :: ("tracked", .nat creator.ancestry.size) ::
    creator.progress.fields creator.seat.roster

def Manager.fields (manager : Manager) : Fields :=
  [("status", .text manager.status.text), ("platform", .text manager.platformStatus.inspect),
    ("buffered", .nat manager.buffer.count), ("pool", .nat manager.pool.size)]

end Hashgraph
