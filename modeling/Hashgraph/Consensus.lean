import Hashgraph.EventWindow
import Hashgraph.Saturating
import Hashgraph.Table

/-! A stand-in for consensus. It numbers events after their parents' numbers, and moves the event window
forward round by round, a fixed number of rounds behind the latest one. -/

namespace Hashgraph

def roundsNonAncient : UInt64 := 26

inductive RoundError where
  | overflow
  | window (fault : WindowError)
deriving DecidableEq

def RoundError.message : RoundError → String
  | .overflow => ""
  | .window fault => fault.message

structure Consensus where
  numbers : Table EventHash (EventDescriptor × Generation)
  window : EventWindow
  maxGeneration : Generation
  rosterSize : UInt64

namespace Consensus

def start (mode : AncientMode) (rosterSize : UInt64) : Consensus :=
  ⟨.empty, .genesis mode, firstGeneration, rosterSize⟩

def numberOf? (consensus : Consensus) (descriptor : EventDescriptor) : Option Generation :=
  (consensus.numbers.find? descriptor.hash).map Prod.snd

def nextNumber? (consensus : Consensus) (event : Event) : Option Generation :=
  generationBehind? (event.parents.filterMap consensus.numberOf?)

def enter (consensus : Consensus) (event : Event) (nGen : Generation) : Consensus :=
  { consensus with
    numbers := consensus.numbers.insert event.hash (event.descriptor, nGen)
    maxGeneration := max consensus.maxGeneration event.generation }

def order (consensus : Consensus) (event : Event) : Except Overflow Event × Consensus :=
  match consensus.nextNumber? event with
  | none => (.error .overflow, consensus)
  | some nGen => (.ok (event.withNGen nGen), consensus.enter event nGen)

/-- What stays behind the latest round, in the measure of the window's mode. -/
def threshold? (consensus : Consensus) (latest : Round) : Option UInt64 :=
  match consensus.window.mode with
  | .birthRoundThreshold => some (saturatingSub latest roundsNonAncient)
  | .generationThreshold =>
      (checkedMul roundsNonAncient consensus.rosterSize).map (saturatingSub consensus.maxGeneration)

def nextThreshold? (consensus : Consensus) (latest : Round) : Option UInt64 :=
  (consensus.threshold? latest).map (max · consensus.window.mode.firstIndicator)

def nextWindow (consensus : Consensus) : Except RoundError EventWindow :=
  match checkedAdd consensus.window.latestConsensusRound 1 with
  | none => .error .overflow
  | some latest =>
      match consensus.nextThreshold? latest, checkedAdd latest 1 with
      | some threshold, some birth =>
          (EventWindow.ofParts latest birth threshold consensus.window.mode).mapError .window
      | _, _ => .error .overflow

def advanceRound (consensus : Consensus) : Except RoundError Consensus :=
  consensus.nextWindow.map fun window =>
    { consensus with
      window := window
      numbers := consensus.numbers.filter fun _ entry => !window.isAncient entry.1 }

def advanceRounds : Nat → Consensus → Except RoundError Consensus
  | 0, consensus => .ok consensus
  | rounds + 1, consensus => consensus.advanceRound.bind (advanceRounds rounds)

def size (consensus : Consensus) : Nat := consensus.numbers.size

end Consensus

end Hashgraph
