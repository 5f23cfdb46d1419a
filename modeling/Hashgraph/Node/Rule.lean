import Hashgraph.Node.Status
import Hashgraph.Time.Instant

/-! Rules that permit or forbid the creation of an event. -/

namespace Hashgraph

structure RuleContext where
  platformStatus : PlatformStatus
  unhealthy : Span
  hasBufferedTransactions : Bool

def RuleContext.initial : RuleContext := ⟨.startingUp, 0, false⟩

inductive Rule where
  | maximumRate (minimumPeriod : Option Span) (lastEvent : Option Instant)
  | platformStatus
  | platformHealth (maximum : Span)
deriving DecidableEq

namespace Rule

/-- The period of a rate in whole nanoseconds, rounded down and at most 2⁶³ − 1. Rates that are not positive
and finite do not limit. -/
def periodOfRate (rate : Float) : Option Span :=
  if 0.0 < rate && rate.isFinite then
    some (min (1000000000.0 / rate).toUInt64.toNat 9223372036854775807)
  else none

def ofRate (rate : Float) : Rule := .maximumRate (periodOfRate rate) none

def permits (rule : Rule) (now : Instant) (context : RuleContext) : Bool :=
  match rule with
  | .maximumRate (some period) (some last) => period ≤ now.nanos - last.nanos
  | .maximumRate _ _ => true
  | .platformStatus =>
      match context.platformStatus with
      | .active | .checking => true
      | .freezing => context.hasBufferedTransactions
      | _ => false
  | .platformHealth maximum => context.unhealthy ≤ maximum

def status : Rule → CreationStatus
  | .maximumRate _ _ => .rateLimited
  | .platformStatus => .platformStatusPreventsCreation
  | .platformHealth _ => .overloaded

def afterEvent (now : Instant) : Rule → Rule
  | .maximumRate period _ => .maximumRate period (some now)
  | other => other

def blockingStatus (rules : List Rule) (now : Instant) (context : RuleContext) : Option CreationStatus :=
  (rules.find? fun rule => !rule.permits now context).map status

end Rule

end Hashgraph
