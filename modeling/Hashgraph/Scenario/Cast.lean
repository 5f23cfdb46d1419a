import Hashgraph.Scenario.Field

/-! The events of a scenario by their names. Definitions refer to events defined before them. -/

namespace Hashgraph

structure Cast where
  events : List (String × Event)

namespace Cast

def empty : Cast := ⟨[]⟩

def add (cast : Cast) (name : Option String) (event : Event) : Cast :=
  match name with
  | some name => ⟨(name, event) :: cast.events⟩
  | none => cast

def event (cast : Cast) (name : String) : Except Fault Event :=
  Fault.check (.unknownName name) ((cast.events.find? fun entry => entry.1 = name).map Prod.snd)

def explicit (record : Document) : Except Fault EventDescriptor := do
  let hash ←
    match record.given? "content" with
    | some _ => (record.hexAt "content").map EventHash.ofContent
    | none => record.need "hash" Document.hash?
  let creator ← record.nodeAt "creator"
  let birthRound ← record.wordAt "birth_round"
  return ⟨creator, birthRound, ← record.wordAt "generation", hash⟩

def descriptorOf (cast : Cast) (field : String) : Document → Except Fault EventDescriptor
  | .text name => (cast.event name).map Event.descriptor
  | .table entries => explicit (.table entries)
  | _ => .error (.badField field)

def descriptor (cast : Cast) (record : Document) (field : String) : Except Fault EventDescriptor :=
  match record.given? field with
  | some document => cast.descriptorOf field document
  | none => .error (.badField field)

def descriptors (cast : Cast) (record : Document) (field : String) : Except Fault (List EventDescriptor) := do
  (← record.itemsAt field).mapM (cast.descriptorOf field)

def transaction? : Document → Option Transaction
  | .int count => if 0 ≤ count ∧ count ≤ 1000000 then some ⟨List.replicate count.toNat 0⟩ else none
  | document => document.hex?.map Transaction.mk

def usualTime : Instant := (Instant.ofParts? 1700000000 0).getD .epoch

def timeOf (record : Document) : Except Fault Instant :=
  if (record.given? "time").isSome then record.timeAt "time" else .ok usualTime

def contentOf (cast : Cast) (record : Document) : Except Fault EventContent := do
  let creator ← record.nodeAt "creator"
  let selfParent ←
    match record.given? "self_parent" with
    | none => .ok none
    | some document => (cast.descriptorOf "self_parent" document).map some
  let otherParents ← cast.descriptors record "others"
  let birthRound ← record.either "birth_round" firstRound Document.word?
  let time ← timeOf record
  return ⟨creator, selfParent, otherParents, birthRound, time,
    ← record.either "txs" [] (Document.listOf? transaction?)⟩

def define (cast : Cast) (record : Document) : Except Fault (Event × Cast) := do
  let content ← cast.contentOf record
  let nGen ← record.may "ngen" Document.word?
  let signature ← record.either "signature" [] Document.hex?
  let name ← record.may "id" Document.text?
  let event ← Fault.check .outOfRange (Event.ofContent? content fun _ => ⟨signature⟩)
  let event := { event with nGen := nGen }
  return (event, cast.add name event)

def defineAll (cast : Cast) : List Document → Except Fault (List Event × Cast)
  | [] => .ok ([], cast)
  | record :: rest => do
      let (event, cast) ← cast.define record
      let (events, cast) ← cast.defineAll rest
      return (event :: events, cast)

def eventOf (cast : Cast) (step : Document) : Except Fault Event := do
  let event ← cast.event (← step.textAt "event")
  match ← step.may "ngen" Document.word? with
  | some nGen => return event.withNGen nGen
  | none => return event

end Cast

end Hashgraph
