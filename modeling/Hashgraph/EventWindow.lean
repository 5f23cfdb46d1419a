import Hashgraph.Event

/-! Event windows: which events have become ancient, and what birth round new events get. -/

namespace Hashgraph

inductive AncientMode where
  | generationThreshold
  | birthRoundThreshold
deriving DecidableEq, Inhabited

namespace AncientMode

def indicator (mode : AncientMode) (descriptor : EventDescriptor) : UInt64 :=
  match mode with
  | .generationThreshold => descriptor.generation
  | .birthRoundThreshold => descriptor.birthRound

def firstIndicator : AncientMode → UInt64
  | .generationThreshold => firstGeneration
  | .birthRoundThreshold => firstRound

def inspect : AncientMode → String
  | .generationThreshold => "GenerationThreshold"
  | .birthRoundThreshold => "BirthRoundThreshold"

def name : AncientMode → String
  | .generationThreshold => "generation_threshold"
  | .birthRoundThreshold => "birth_round_threshold"

end AncientMode

inductive WindowError where
  | birthRoundTooLow (birthRound : Round)
  | thresholdTooLow (threshold minimum : UInt64)
deriving DecidableEq

def WindowError.message : WindowError → String
  | .birthRoundTooLow birthRound =>
      "New event birth round " ++ digitText birthRound.toNat ++ " is below the first round"
  | .thresholdTooLow threshold minimum =>
      "Ancient threshold " ++ digitText threshold.toNat ++ " is below the minimum " ++ digitText minimum.toNat

structure EventWindow where
  latestConsensusRound : Round
  newEventBirthRound : Round
  ancientThreshold : UInt64
  mode : AncientMode
deriving DecidableEq

namespace EventWindow

def ofParts (latest birth : Round) (threshold : UInt64) (mode : AncientMode) : Except WindowError EventWindow :=
  if birth < firstRound then .error (.birthRoundTooLow birth)
  else if threshold < mode.firstIndicator then .error (.thresholdTooLow threshold mode.firstIndicator)
  else .ok ⟨latest, birth, threshold, mode⟩

def genesis (mode : AncientMode) : EventWindow := ⟨roundBeforeAll, firstRound, mode.firstIndicator, mode⟩

def isGenesis (window : EventWindow) : Bool := window.latestConsensusRound = roundBeforeAll

def pendingRound? (window : EventWindow) : Option Round := checkedAdd window.latestConsensusRound 1

def isAncientIndicator (window : EventWindow) (indicator : UInt64) : Bool := indicator < window.ancientThreshold

def isAncient (window : EventWindow) (descriptor : EventDescriptor) : Bool :=
  window.isAncientIndicator (window.mode.indicator descriptor)

def text (window : EventWindow) : String :=
  "latest_round=" ++ digitText window.latestConsensusRound.toNat ++ " birth_round=" ++
    digitText window.newEventBirthRound.toNat ++ " threshold=" ++ digitText window.ancientThreshold.toNat ++
    " mode=" ++ window.mode.inspect

def inspect (window : EventWindow) : String :=
  "EventWindow \x7b latest_consensus_round: " ++ digitText window.latestConsensusRound.toNat ++
    ", new_event_birth_round: " ++ digitText window.newEventBirthRound.toNat ++ ", ancient_mode: " ++
    window.mode.inspect ++ ", ancient_threshold: " ++ digitText window.ancientThreshold.toNat ++ " \x7d"

end EventWindow

end Hashgraph
