import Hashgraph.Metrics.Exposition
import Hashgraph.Node.Status
import Hashgraph.Table

/-! What a node counts around its creator: the statuses that its attempts reached, and the size of its
hold buffer. -/

namespace Hashgraph

structure NodeCounters where
  statuses : Table CreationStatus Nat
  buffered : Int

namespace NodeCounters

def zero : NodeCounters := ⟨.empty, 0⟩

def record (counters : NodeCounters) (status : CreationStatus) : NodeCounters :=
  { counters with statuses := counters.statuses.modify status 0 (· + 1) }

def count (counters : NodeCounters) (status : CreationStatus) : Nat := (counters.statuses.find? status).getD 0

def showStatus (counters : NodeCounters) (status : CreationStatus) : NodeCounters :=
  { counters with statuses := counters.statuses.modify status 0 id }

def families (counters : NodeCounters) : List MetricFamily :=
  [.labelled "tipset_creation_status_total" "Statuses reached by creation attempts" "status"
      (counters.statuses.entries.map fun (status, count) => (status.name, floatOfInt count)),
    .single .gauge "tipset_future_buffered_events" "Events buffered until their birth round is reached"
      (floatOfInt counters.buffered)]

end NodeCounters

end Hashgraph
