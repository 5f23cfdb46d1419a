import Hashgraph.Time.Instant

/-! Settings of event creation. -/

namespace Hashgraph

structure CreationSettings where
  maxCreationRate : Float
  creationAttemptRate : Float
  antiSelfishnessFactor : Float
  maxUnhealthyMillis : UInt64
  maxTransactionBytes : UInt64
  seed : UInt64

namespace CreationSettings

def default : CreationSettings := ⟨20.0, 100.0, 10.0, 1000, 245760, 0⟩

def effectiveFactor (settings : CreationSettings) : Float :=
  if 1.0 < settings.antiSelfishnessFactor then settings.antiSelfishnessFactor else 1.0

def maxUnhealthy (settings : CreationSettings) : Span := .ofMillis settings.maxUnhealthyMillis

/-- Time between attempts: nothing unless the rate is positive and finite, and then an error when the
interval is no length of time. -/
inductive AttemptInterval where
  | disabled
  | every (span : Span)
  | outOfRange
deriving DecidableEq

def attemptInterval (settings : CreationSettings) : AttemptInterval :=
  let rate := settings.creationAttemptRate
  if 0.0 < rate && rate.isFinite then
    match Span.ofSeconds? (1.0 / rate) with
    | some span => .every span
    | none => .outOfRange
  else .disabled

end CreationSettings

end Hashgraph
