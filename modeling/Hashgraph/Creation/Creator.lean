import Hashgraph.Creation.Counters
import Hashgraph.Creation.Settings
import Hashgraph.Progress
import Hashgraph.Random.Draw

/-! The event creator of one node. It learns events and windows, and when asked builds the next event of
its node on the childless event that moves the hashgraph forward most, or now and then on the event of a
member that has been ignored. -/

namespace Hashgraph

structure Creator where
  seat : Seat
  mode : AncientMode
  factor : Float
  random : RandomStream
  ancestry : Ancestry
  childless : ChildlessEvents
  progress : Progress
  lastSelfEvent : Option Event
  counters : CreationCounters

inductive CreationError where
  | untracked (descriptor : EventDescriptor)
  | outOfRange
deriving DecidableEq

/-- An attempt whose event would lie outside the calendar, or above the last generation, stops without a word. -/
def CreationError.message : CreationError → String
  | .untracked descriptor => "No tipset tracked for self event " ++ descriptor.text
  | .outOfRange => ""

structure Attempt (σ : Type) where
  outcome : Except CreationError (Option Event)
  creator : Creator
  supply : σ

/-- What a node's surroundings give to an attempt: signatures, and transactions to put into an event. -/
structure Surroundings (σ : Type) where
  sign : EventHash → Signature
  take : σ → List Transaction × σ

inductive ParentChoice where
  | pity (event : Event)
  | best (event : Event)
  | nothing
deriving DecidableEq

namespace Creator

def start (seat : Seat) (mode : AncientMode) (settings : CreationSettings) : Creator where
  seat := seat
  mode := mode
  factor := settings.effectiveFactor
  random := .ofSeed settings.seed
  ancestry := .start seat.roster mode
  childless := .empty
  progress := .start seat.roster
  lastSelfEvent := none
  counters := .zero

def window (creator : Creator) : EventWindow := creator.ancestry.window

def stats (creator : Creator) : CreationStats := creator.counters.stats creator.seat.roster.nodes

/-! ### Choosing the other-parent -/

def candidateBefore (a b : Event) : Bool := ((NodeId.order a.creator b.creator).then (a.hash.order b.hash)).isLE

def insertCandidate (candidate : Event) : List Event → List Event
  | [] => [candidate]
  | first :: rest =>
      if candidateBefore candidate first then candidate :: first :: rest
      else first :: insertCandidate candidate rest

def sortedCandidates (creator : Creator) : List Event := creator.childless.events.foldr insertCandidate []

def lastDescriptor (creator : Creator) : Option EventDescriptor := creator.lastSelfEvent.map Event.descriptor

def theoretical (creator : Creator) (parents : List EventDescriptor) : Advancement :=
  creator.progress.theoretical creator.seat creator.ancestry parents

def gain (creator : Creator) (candidate : Event) : Advancement :=
  creator.theoretical (candidate.descriptor :: creator.lastDescriptor.toList)

def selfishness (creator : Creator) (node : NodeId) : Nat := creator.progress.score creator.seat.roster node

/-- The first candidate with the greatest gain, and among equal gains the greatest selfishness score.
Candidates without gain do not count. -/
def bestOf (creator : Creator) : List Event → Option Event → Option Event
  | [], best => best
  | candidate :: rest, best =>
      let gain := creator.gain candidate
      let better :=
        gain.isNonZero &&
          match best with
          | none => true
          | some known =>
              gain.exceeds (creator.gain known) ||
                (gain = creator.gain known &&
                  creator.selfishness known.creator < creator.selfishness candidate.creator)
      creator.bestOf rest (if better then some candidate else best)

def chooseBest (creator : Creator) (random : RandomStream) : Option Event × RandomStream :=
  let (candidates, random) := random.shuffle creator.sortedCandidates
  (creator.bestOf candidates none, random)

def ignored (creator : Creator) : List (Event × Nat) :=
  creator.sortedCandidates.filterMap fun candidate =>
    let score := creator.selfishness candidate.creator
    if 1 < score && (creator.gain candidate).isNonZero then some (candidate, score) else none

def pick : Nat → List (Event × Nat) → Option Event
  | _, [] => none
  | choice, (candidate, score) :: rest => if choice < score then some candidate else pick (choice - score) rest

def choosePity (creator : Creator) (random : RandomStream) : Option Event × RandomStream :=
  let ignored := creator.ignored
  if ignored.isEmpty then (none, random)
  else
    let (choice, random) := random.below64 (ignored.foldl (fun sum candidate => sum + candidate.2) 0)
    (pick choice ignored, random)

def pityChance (creator : Creator) : Float := floatOfInt (creator.progress.maxScore - 1 : Nat) / creator.factor

def feelsPity (chance : Float) (random : RandomStream) : Bool × RandomStream :=
  if 0.0 < chance then
    let (drawn, random) := random.fraction
    (drawn < chance, random)
  else (false, random)

def chooseByWeight (creator : Creator) (random : RandomStream) : ParentChoice × RandomStream :=
  match creator.chooseBest random with
  | (some event, random) => (.best event, random)
  | (none, random) => (.nothing, random)

def chooseParent (creator : Creator) (random : RandomStream) : ParentChoice × RandomStream :=
  match feelsPity creator.pityChance random with
  | (true, random) =>
      match creator.choosePity random with
      | (some event, random) => (.pity event, random)
      | (none, random) => creator.chooseByWeight random
  | (false, random) => creator.chooseByWeight random

/-! ### Building an event -/

def nextBirthRound (creator : Creator) : Round :=
  match creator.mode with
  | .birthRoundThreshold => creator.window.newEventBirthRound
  | .generationThreshold => firstRound

/-- Each transaction of the last event has a nanosecond of its own, and an event without any has one too. -/
def nextTime? (creator : Creator) (now : Instant) : Option Instant :=
  match creator.lastSelfEvent with
  | none => some now
  | some last => (last.timeCreated.plus? (max last.transactions.length 1 : Nat)).map now.later

def nextIndicator (creator : Creator) (generation : Generation) : UInt64 :=
  match creator.mode with
  | .generationThreshold => generation
  | .birthRoundThreshold => creator.nextBirthRound

def advancementRatio (creator : Creator) (improvement : Advancement) : Float :=
  let whole := creator.seat.othersWeight
  if whole = 0 then 0.0 else floatOfInt improvement.weight.toNat / floatOfInt whole.toNat

def commit {σ : Type} (creator : Creator) (supply : σ) (event : Event) : Attempt σ :=
  let ancestry := (creator.ancestry.addSelfEvent creator.seat.roster event.descriptor event.parents).2
  match creator.progress.record? creator.seat ancestry creator.childless event.descriptor with
  | none => ⟨.error (.untracked event.descriptor), { creator with ancestry := ancestry }, supply⟩
  | some step =>
      let genesis := event.selfParent.isNone && event.otherParents.isEmpty
      ⟨.ok (some event),
        { creator with
          ancestry := ancestry
          childless := creator.childless.retire event.otherParents
          progress := step.progress
          lastSelfEvent := some event
          counters := creator.counters.recordCreated genesis (creator.advancementRatio step.improvement) },
        supply⟩

/-- Builds the next event unless it would be ancient at once. Transactions are taken only after that. -/
def build {σ : Type} (creator : Creator) (surroundings : Surroundings σ) (now : Instant) (supply : σ)
    (otherParent : Option Event) : Attempt σ :=
  let otherParents := (otherParent.map Event.descriptor).toList
  match nextGeneration? (creator.lastDescriptor.toList ++ otherParents) with
  | none => ⟨.error .outOfRange, creator, supply⟩
  | some generation =>
      if creator.window.isAncientIndicator (creator.nextIndicator generation) then
        ⟨.ok none, { creator with counters := creator.counters.recordRefusedAncient }, supply⟩
      else
        match creator.nextTime? now with
        | none => ⟨.error .outOfRange, creator, supply⟩
        | some time =>
            let (transactions, supply) := surroundings.take supply
            let content : EventContent :=
              ⟨creator.seat.node, creator.lastDescriptor, otherParents, creator.nextBirthRound, time, transactions⟩
            creator.commit supply (Event.ofContent content generation surroundings.sign)

def Attempt.whenCreated {σ : Type} (attempt : Attempt σ) (change : CreationCounters → CreationCounters) :
    Attempt σ :=
  match attempt.outcome with
  | .ok (some _) => { attempt with creator := { attempt.creator with counters := change attempt.creator.counters } }
  | _ => attempt

def mayStart (creator : Creator) : Bool := creator.lastSelfEvent.isNone && creator.window.isGenesis

def follow {σ : Type} (creator : Creator) (surroundings : Surroundings σ) (now : Instant) (supply : σ)
    (choice : ParentChoice) : Attempt σ :=
  match choice with
  | .pity parent =>
      Attempt.whenCreated (creator.build surroundings now supply (some parent)) (·.recordPityParent parent.creator)
  | .best parent =>
      Attempt.whenCreated (creator.build surroundings now supply (some parent)) (·.recordBestParent parent.creator)
  | .nothing =>
      if creator.mayStart then creator.build surroundings now supply none
      else ⟨.ok none, { creator with counters := creator.counters.recordRefusedNoParent }, supply⟩

def attempt {σ : Type} (creator : Creator) (surroundings : Surroundings σ) (now : Instant) (supply : σ) :
    Attempt σ :=
  if creator.seat.roster.size = 1 then creator.build surroundings now supply creator.lastSelfEvent
  else
    let creator :=
      { creator with counters := creator.counters.setMaxSelfishness creator.progress.maxScore }
    let (choice, random) := creator.chooseParent creator.random
    { creator with random := random }.follow surroundings now supply choice

/-! ### Learning -/

/-- An event without a number has just been created and stays; otherwise a higher number wins. -/
def isNewerSelfEvent (creator : Creator) (event : Event) : Bool :=
  match creator.lastSelfEvent with
  | none => true
  | some last =>
      match last.nGen, event.nGen with
      | some old, some new => old < new
      | _, _ => false

def register (creator : Creator) (event : Event) : Creator :=
  if creator.window.isAncient event.descriptor then creator
  else if !creator.seat.roster.contains event.creator then creator
  else if event.creator = creator.seat.node then
    if creator.isNewerSelfEvent event then
      { creator with
        childless := creator.childless.retire event.otherParents
        ancestry := (creator.ancestry.addSelfEvent creator.seat.roster event.descriptor event.parents).2
        lastSelfEvent := some event }
    else creator
  else
    { creator with
      ancestry := (creator.ancestry.addPeerEvent creator.seat.roster event).2
      childless := creator.childless.add event }

def setWindow (creator : Creator) (window : EventWindow) : Creator :=
  { creator with
    ancestry := creator.ancestry.setWindow window
    childless := creator.childless.prune window }

def clear (creator : Creator) : Creator :=
  { creator with
    ancestry := .start creator.seat.roster creator.mode
    childless := .empty
    progress := .start creator.seat.roster
    lastSelfEvent := none }

def listing (creator : Creator) : String × List String :=
  let last :=
    match creator.lastSelfEvent with
    | some event => event.text
    | none => "none"
  let (heading, lines) := creator.childless.listing
  ("Event window: " ++ creator.window.text ++ "\nLatest self event: " ++ last ++ "\n" ++
    creator.progress.text creator.seat.roster ++ heading, lines)

end Creator

end Hashgraph
