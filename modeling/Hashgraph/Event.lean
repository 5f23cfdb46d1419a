import Hashgraph.Checked
import Hashgraph.Event.Hash
import Hashgraph.Time.Instant

/-! Events and the descriptors that name them. The hash of an event covers its creator, the hashes of its
parents, its birth round, its creation time and its transactions. -/

namespace Hashgraph

structure EventDescriptor where
  creator : NodeId
  birthRound : Round
  generation : Generation
  hash : EventHash
deriving DecidableEq, Inhabited

def EventDescriptor.text (descriptor : EventDescriptor) : String :=
  "(" ++ descriptor.creator.text ++ " gen:" ++ digitText descriptor.generation.toNat ++ " br:" ++
    digitText descriptor.birthRound.toNat ++ " " ++ descriptor.hash.text ++ ")"

/-- One more than the highest of some generations, or the first one if there are none. -/
def generationBehind? (generations : List Generation) : Option Generation :=
  match generations.max? with
  | none => some firstGeneration
  | some highest => checkedAdd highest 1

def nextGeneration? (parents : List EventDescriptor) : Option Generation :=
  generationBehind? (parents.map EventDescriptor.generation)

structure EventContent where
  creator : NodeId
  selfParent : Option EventDescriptor
  otherParents : List EventDescriptor
  birthRound : Round
  timeCreated : Instant
  transactions : List Transaction
deriving DecidableEq

namespace EventContent

def parents (content : EventContent) : List EventDescriptor := content.selfParent.toList ++ content.otherParents

def encodeSelfParent : Option EventDescriptor → Bytes
  | none => [0]
  | some parent => 1 :: parent.hash.toBytes

def encodeList {α : Type} (encode : α → Bytes) (items : List α) : Bytes :=
  Bytes.littleEndian 8 items.length ++ items.flatMap encode

def encodeTransaction (transaction : Transaction) : Bytes :=
  Bytes.littleEndian 8 transaction.size ++ transaction.payload

def encodeTime (time : Instant) : Bytes :=
  Bytes.littleEndian 8 (time.seconds % UInt64.size).toNat ++ Bytes.littleEndian 4 time.subsecond.toNat

def encode (content : EventContent) : Bytes :=
  Bytes.word64 content.creator.number ++ encodeSelfParent content.selfParent ++
    encodeList (fun parent : EventDescriptor => parent.hash.toBytes) content.otherParents ++
    Bytes.word64 content.birthRound ++ encodeTime content.timeCreated ++
    encodeList encodeTransaction content.transactions

def hash (content : EventContent) : EventHash := EventHash.ofContent content.encode

def describe (content : EventContent) (generation : Generation) : EventDescriptor :=
  ⟨content.creator, content.birthRound, generation, content.hash⟩

end EventContent

structure Event where
  content : EventContent
  descriptor : EventDescriptor
  signature : Signature
  nGen : Option Generation
deriving DecidableEq

namespace Event

def ofContent (content : EventContent) (generation : Generation) (sign : EventHash → Signature) : Event :=
  ⟨content, content.describe generation, sign content.hash, none⟩

def ofContent? (content : EventContent) (sign : EventHash → Signature) : Option Event :=
  (nextGeneration? content.parents).map fun generation => ofContent content generation sign

def withNGen (event : Event) (nGen : Generation) : Event := { event with nGen := some nGen }

def creator (event : Event) : NodeId := event.descriptor.creator

def hash (event : Event) : EventHash := event.descriptor.hash

def birthRound (event : Event) : Round := event.descriptor.birthRound

def generation (event : Event) : Generation := event.descriptor.generation

def selfParent (event : Event) : Option EventDescriptor := event.content.selfParent

def otherParents (event : Event) : List EventDescriptor := event.content.otherParents

def parents (event : Event) : List EventDescriptor := event.content.parents

def timeCreated (event : Event) : Instant := event.content.timeCreated

def transactions (event : Event) : List Transaction := event.content.transactions

def text (event : Event) : String :=
  event.descriptor.text ++ " ngen:" ++
    match event.nGen with
    | some nGen => digitText nGen.toNat
    | none => "-"

end Event

end Hashgraph
