/-! The state of the platform around a node, and what became of its attempts to create events. -/

namespace Hashgraph

inductive PlatformStatus where
  | startingUp
  | replayingEvents
  | observing
  | checking
  | active
  | behind
  | freezing
  | freezeComplete
  | reconnectComplete
  | catastrophicFailure
deriving DecidableEq, Inhabited

namespace PlatformStatus

def all : List PlatformStatus :=
  [.startingUp, .replayingEvents, .observing, .checking, .active, .behind, .freezing, .freezeComplete,
    .reconnectComplete, .catastrophicFailure]

def name : PlatformStatus → String
  | .startingUp => "starting_up"
  | .replayingEvents => "replaying_events"
  | .observing => "observing"
  | .checking => "checking"
  | .active => "active"
  | .behind => "behind"
  | .freezing => "freezing"
  | .freezeComplete => "freeze_complete"
  | .reconnectComplete => "reconnect_complete"
  | .catastrophicFailure => "catastrophic_failure"

def inspect : PlatformStatus → String
  | .startingUp => "StartingUp"
  | .replayingEvents => "ReplayingEvents"
  | .observing => "Observing"
  | .checking => "Checking"
  | .active => "Active"
  | .behind => "Behind"
  | .freezing => "Freezing"
  | .freezeComplete => "FreezeComplete"
  | .reconnectComplete => "ReconnectComplete"
  | .catastrophicFailure => "CatastrophicFailure"

end PlatformStatus

inductive CreationStatus where
  | idle
  | attemptingCreation
  | rateLimited
  | noEligibleParents
  | platformStatusPreventsCreation
  | overloaded
deriving DecidableEq, Inhabited

namespace CreationStatus

def all : List CreationStatus :=
  [.idle, .attemptingCreation, .rateLimited, .noEligibleParents, .platformStatusPreventsCreation, .overloaded]

def name : CreationStatus → String
  | .idle => "idle"
  | .attemptingCreation => "attempting_creation"
  | .rateLimited => "rate_limited"
  | .noEligibleParents => "no_eligible_parents"
  | .platformStatusPreventsCreation => "platform_status_prevents_creation"
  | .overloaded => "overloaded"

def text : CreationStatus → String
  | .idle => "idle"
  | .attemptingCreation => "attempting creation"
  | .rateLimited => "rate limited"
  | .noEligibleParents => "no eligible parents"
  | .platformStatusPreventsCreation => "platform status prevents creation"
  | .overloaded => "overloaded"

end CreationStatus

end Hashgraph
