import Hashgraph.Creation.Creator
import Hashgraph.Node.Counters
import Hashgraph.Node.HoldBuffer
import Hashgraph.Node.Rule
import Hashgraph.Node.TransactionPool

/-! Event creation inside a node: the rules say whether an attempt is made, events of future rounds are
held back, and transactions come from the node's pool. -/

namespace Hashgraph

structure Manager where
  creator : Creator
  rules : List Rule
  buffer : HoldBuffer
  pool : TransactionPool
  maxTransactionBytes : Nat
  platformStatus : PlatformStatus
  unhealthy : Span
  status : CreationStatus
  counters : NodeCounters

namespace Manager

def standardRules (settings : CreationSettings) : List Rule :=
  [.ofRate settings.maxCreationRate, .platformStatus, .platformHealth settings.maxUnhealthy]

def start (seat : Seat) (mode : AncientMode) (settings : CreationSettings) : Manager where
  creator := .start seat mode settings
  rules := standardRules settings
  buffer := .start mode
  pool := .empty
  maxTransactionBytes := settings.maxTransactionBytes.toNat
  platformStatus := .startingUp
  unhealthy := 0
  status := .idle
  counters := .zero

def context (manager : Manager) : RuleContext :=
  ⟨manager.platformStatus, manager.unhealthy, !manager.pool.isEmpty⟩

def enter (manager : Manager) (status : CreationStatus) : Manager :=
  { manager with status := status, counters := manager.counters.record status }

def surroundings (manager : Manager) (sign : EventHash → Signature) : Surroundings TransactionPool :=
  ⟨sign, TransactionPool.drain manager.maxTransactionBytes⟩

def attemptPermitted (manager : Manager) (sign : EventHash → Signature) (now : Instant) :
    Except CreationError (Option Event) × Manager :=
  let manager := manager.enter .attemptingCreation
  let attempt := manager.creator.attempt (manager.surroundings sign) now manager.pool
  let manager := { manager with creator := attempt.creator, pool := attempt.supply }
  match attempt.outcome with
  | .error fault => (.error fault, manager)
  | .ok (some event) =>
      let rules := manager.rules.map (Rule.afterEvent now)
      (.ok (some event), { manager with rules := rules }.enter .rateLimited)
  | .ok none => (.ok none, manager.enter .noEligibleParents)

def attempt (manager : Manager) (sign : EventHash → Signature) (now : Instant) :
    Except CreationError (Option Event) × Manager :=
  match Rule.blockingStatus manager.rules now manager.context with
  | some status => (.ok none, manager.enter status)
  | none => manager.attemptPermitted sign now

def pass (manager : Manager) (event : Event) : Manager :=
  { manager with creator := manager.creator.register event }

def passAll (manager : Manager) : Except Overflow (List Event) → Except Overflow Unit × Manager
  | .ok events => (.ok (), events.foldl pass manager)
  | .error fault => (.error fault, manager)

def register (manager : Manager) (event : Event) : Except Overflow Unit × Manager :=
  let (passed, buffer) := manager.buffer.add event
  { manager with buffer := buffer }.passAll (passed.map Option.toList)

/-- The creator gets the window first and then the events that it releases. -/
def setWindow (manager : Manager) (window : EventWindow) : Except Overflow Unit × Manager :=
  let (released, buffer) := manager.buffer.setWindow window
  { manager with creator := manager.creator.setWindow window, buffer := buffer }.passAll released

def clear (manager : Manager) : Manager :=
  { manager with creator := manager.creator.clear, buffer := manager.buffer.clear, status := .idle }

def submit (manager : Manager) (transaction : Transaction) : Manager :=
  { manager with pool := manager.pool.submit transaction }

def setPlatformStatus (manager : Manager) (status : PlatformStatus) : Manager :=
  { manager with platformStatus := status }

def setUnhealthy (manager : Manager) (span : Span) : Manager := { manager with unhealthy := span }

def families (manager : Manager) : List MetricFamily :=
  manager.creator.counters.families ++ { manager.counters with buffered := manager.buffer.gauge }.families

end Manager

end Hashgraph
