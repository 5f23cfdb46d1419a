import Hashgraph.Node.Manager

/-! A manager that runs by itself: it handles the commands that were sent to it and makes an attempt at
every tick of its timer. The timer starts when the service first runs. -/

namespace Hashgraph

inductive Command where
  | register (event : Event)
  | setWindow (window : EventWindow)
  | setPlatformStatus (status : PlatformStatus)
  | setUnhealthy (span : Span)
  | clear

def Manager.handle (manager : Manager) : Command → Except Overflow Unit × Manager
  | .register event => manager.register event
  | .setWindow window => manager.setWindow window
  | .setPlatformStatus status => (.ok (), manager.setPlatformStatus status)
  | .setUnhealthy span => (.ok (), manager.setUnhealthy span)
  | .clear => (.ok (), manager.clear)

/-- `shown` is the status that outsiders see; only attempts change it. -/
structure Service where
  manager : Manager
  waiting : List Command
  published : List Event
  shown : CreationStatus
  interval : Span
  elapsed : Span
  ticks : Nat
  stopped : Bool

namespace Service

def stoppedMessage : String := "Event creation service has stopped"

def start (manager : Manager) (interval : Span) : Service :=
  ⟨manager, [], [], manager.status, interval, 0, 0, false⟩

def send (service : Service) (command : Command) : Option Service :=
  if service.stopped then none else some { service with waiting := service.waiting ++ [command] }

def handle (service : Service) (command : Command) : Service :=
  if service.stopped then service
  else
    let (outcome, manager) := service.manager.handle command
    { service with manager := manager, stopped := !outcome.isOk }

def handleWaiting (service : Service) : Service :=
  service.waiting.foldl handle { service with waiting := [] }

def tick (service : Service) (sign : EventHash → Signature) (now : Instant) : Service :=
  if service.stopped then service
  else
    match service.manager.attempt sign now with
    | (.error .outOfRange, manager) => { service with manager := manager, stopped := true }
    | (outcome, manager) =>
        { service with
          manager := manager
          published := service.published ++ outcome.toOption.join.toList
          shown := manager.status
          ticks := service.ticks + 1 }

def dueTicks (service : Service) : Nat :=
  if service.interval = 0 then 0 else service.elapsed / service.interval + 1

def tickTimes (service : Service) (sign : EventHash → Signature) (now : Instant) : Nat → Service
  | 0 => service
  | count + 1 => (service.tick sign now).tickTimes sign now count

def run (service : Service) (sign : EventHash → Signature) (now : Instant) (span : Span) : Service :=
  if service.stopped then service
  else
    let service := { service.handleWaiting with elapsed := service.elapsed + span }
    service.tickTimes sign now (service.dueTicks - service.ticks)

def stop (service : Service) : Service := { service with stopped := true, waiting := [] }

def takePublished (service : Service) : List Event × Service :=
  (service.published, { service with published := [] })

end Service

end Hashgraph
