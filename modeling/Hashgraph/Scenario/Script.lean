import Hashgraph.Scenario.Cast

/-! Scripts: steps that act on a state and on a cast of events, and answer with documents. -/

namespace Hashgraph

structure Stage (σ : Type) where
  cast : Cast
  state : σ

abbrev Play (σ : Type) := ExceptT Fault (StateM (Stage σ))

namespace Play

variable {σ : Type}

def state : Play σ σ := return (← get).state

def cast : Play σ Cast := return (← get).cast

def setState (state : σ) : Play σ Unit := modify fun stage => { stage with state := state }

def settle {α : Type} (state : σ) (outcome : Except Overflow α) : Play σ α := do
  setState state
  outcome.mapError Fault.ofOverflow

def put (state : σ) : Play σ Document := do
  setState state
  return .null

def event (step : Document) : Play σ Event := do (← cast).eventOf step

def descriptors (step : Document) (field : String) : Play σ (List EventDescriptor) := do
  (← cast).descriptors step field

def enter (step : Document) (event : Event) : Play σ Unit := do
  let name ← step.may "as" Document.text?
  modify fun stage => { stage with cast := stage.cast.add name event }

def define (step : Document) : Play σ Document := do
  let (event, cast) ← (← cast).define step
  modify fun stage => { stage with cast := cast }
  return .text event.text

def moved (clock : Option Instant) : Play σ Instant := Fault.check .outOfRange clock

end Play

def playScript {σ : Type} (act : String → Document → Play σ Document) :
    List Document → Stage σ → List (Except Fault Document) × Stage σ
  | [], stage => ([], stage)
  | step :: rest, stage =>
      let action : Play σ Document := do act (← step.textAt "do") step
      let (answer, stage) := action.run.run stage
      match answer with
      | .error .outOfRange => ([answer], stage)
      | _ =>
          let (answers, stage) := playScript act rest stage
          (answer :: answers, stage)

end Hashgraph
