import Hashgraph.Document.Yaml.Lexer
import Hashgraph.Document.Yaml.Node

/-! Reading YAML documents from tokens. -/

namespace Hashgraph.Yaml

/-- The names of nodes. A later node may take over a name; one that is still being read has a number but no
value yet. -/
structure Anchors where
  numbers : List (String × Nat)
  nodes : List (Nat × Node)
  next : Nat

namespace Anchors

def empty : Anchors := ⟨[], [], 0⟩

def register (anchors : Anchors) (name : String) : Nat × Anchors :=
  (anchors.next, { anchors with numbers := (name, anchors.next) :: anchors.numbers, next := anchors.next + 1 })

def define (anchors : Anchors) (number : Option Nat) (node : Node) : Anchors :=
  match number with
  | some number => { anchors with nodes := (number, node) :: anchors.nodes }
  | none => anchors

def find? (anchors : Anchors) (name : String) : Option Node :=
  (anchors.numbers.lookup name).map fun number => (anchors.nodes.lookup number).getD .unfit

end Anchors

structure Properties where
  anchor : Option Nat
  tag : Option Tag

def readProperties (anchors : Anchors) (tokens : List Token) : Properties × Anchors × List Token :=
  match tokens with
  | .anchor name :: .tag tag :: rest =>
      let (number, anchors) := anchors.register name
      (⟨some number, some tag⟩, anchors, rest)
  | .anchor name :: rest =>
      let (number, anchors) := anchors.register name
      (⟨some number, none⟩, anchors, rest)
  | .tag tag :: .anchor name :: rest =>
      let (number, anchors) := anchors.register name
      (⟨some number, some tag⟩, anchors, rest)
  | .tag tag :: rest => (⟨none, some tag⟩, anchors, rest)
  | tokens => (⟨none, none⟩, anchors, tokens)

/-- Where a node stands: whether it may be a block, and whether a list may begin without indentation. -/
structure Setting where
  allowsBlock : Bool
  allowsIndentless : Bool

def Setting.flow : Setting := ⟨false, false⟩

def Setting.item : Setting := ⟨true, false⟩

def Setting.entry : Setting := ⟨true, true⟩

abbrev Step (α : Type) := Option (α × Anchors × List Token)

def endsEntry : List Token → Bool
  | .key :: _ | .value :: _ | .blockEnd :: _ => true
  | _ => false

def endsItem : List Token → Bool
  | .blockEntry :: _ | .blockEnd :: _ => true
  | _ => false

def endsFlowEntry : List Token → Bool
  | .flowEntry :: _ | .flowMappingEnd :: _ => true
  | _ => false

def endsFlowItem : List Token → Bool
  | .flowEntry :: _ | .flowSequenceEnd :: _ => true
  | _ => false

mutual

def readNode : Nat → Setting → Anchors → List Token → Step Node
  | 0, _, _, _ => none
  | fuel + 1, setting, anchors, tokens =>
      match tokens with
      | .alias name :: rest => (anchors.find? name).map fun node => (node, anchors, rest)
      | tokens =>
          let (properties, anchors, tokens) := readProperties anchors tokens
          match readContent fuel setting properties anchors tokens with
          | some (node, anchors, rest) => some (node, anchors.define properties.anchor node, rest)
          | none => none

def readContent : Nat → Setting → Properties → Anchors → List Token → Step Node
  | 0, _, _, _, _ => none
  | fuel + 1, setting, properties, anchors, tokens =>
      let missing : Step Node :=
        if properties.anchor.isSome || properties.tag.isSome then
          some (.ofScalar true "" properties.tag, anchors, tokens)
        else none
      match tokens with
      | .scalar isPlain text :: rest => some (.ofScalar isPlain text properties.tag, anchors, rest)
      | .flowSequenceStart :: rest => readFlowItems fuel true [] anchors rest
      | .flowMappingStart :: rest => readFlowEntries fuel true [] anchors rest
      | .blockEntry :: _ => if setting.allowsIndentless then readIndentlessItems fuel [] anchors tokens else missing
      | .blockSequenceStart :: rest => if setting.allowsBlock then readBlockItems fuel [] anchors rest else missing
      | .blockMappingStart :: rest => if setting.allowsBlock then readBlockEntries fuel [] anchors rest else missing
      | _ => missing

def readNodeUnless : Nat → (List Token → Bool) → Setting → Anchors → List Token → Step Node
  | 0, _, _, _, _ => none
  | fuel + 1, isMissing, setting, anchors, tokens =>
      if isMissing tokens then some (.null, anchors, tokens) else readNode fuel setting anchors tokens

def readBlockItems : Nat → List Node → Anchors → List Token → Step Node
  | 0, _, _, _ => none
  | fuel + 1, items, anchors, tokens =>
      match tokens with
      | .blockEnd :: rest => some (.list items.reverse, anchors, rest)
      | .blockEntry :: rest =>
          match readNodeUnless fuel endsItem .item anchors rest with
          | some (item, anchors, rest) => readBlockItems fuel (item :: items) anchors rest
          | none => none
      | _ => none

def readIndentlessItems : Nat → List Node → Anchors → List Token → Step Node
  | 0, _, _, _ => none
  | fuel + 1, items, anchors, tokens =>
      match tokens with
      | .blockEntry :: rest =>
          match readNodeUnless fuel (fun tokens => endsItem tokens || endsEntry tokens) .item anchors rest with
          | some (item, anchors, rest) => readIndentlessItems fuel (item :: items) anchors rest
          | none => none
      | _ => some (.list items.reverse, anchors, tokens)

/-- Entries of a block. Keys and values are collected in turn, in reverse; either may be missing. -/
def readBlockEntries : Nat → List Node → Anchors → List Token → Step Node
  | 0, _, _, _ => none
  | fuel + 1, nodes, anchors, tokens =>
      let key : Step Node :=
        match tokens with
        | .key :: rest => readNodeUnless fuel endsEntry .entry anchors rest
        | .value :: _ => some (.null, anchors, tokens)
        | _ => none
      match tokens, key with
      | .blockEnd :: rest, _ => some (.table (Node.pairs nodes.reverse), anchors, rest)
      | _, some (key, anchors, .value :: rest) =>
          match readNodeUnless fuel endsEntry .entry anchors rest with
          | some (value, anchors, rest) => readBlockEntries fuel (value :: key :: nodes) anchors rest
          | none => none
      | _, some (key, anchors, rest) => readBlockEntries fuel (.null :: key :: nodes) anchors rest
      | _, none => none

def readFlowEntries : Nat → Bool → List Node → Anchors → List Token → Step Node
  | 0, _, _, _, _ => none
  | fuel + 1, isFirst, nodes, anchors, tokens =>
      let separated : Option (List Token) :=
        match isFirst, tokens with
        | true, tokens => some tokens
        | false, .flowMappingEnd :: _ => some tokens
        | false, .flowEntry :: rest => some rest
        | false, _ => none
      match separated with
      | none => none
      | some (.flowMappingEnd :: rest) => some (.table (Node.pairs nodes.reverse), anchors, rest)
      | some (.key :: rest) =>
          let isMissing (tokens : List Token) : Bool := endsFlowEntry tokens || tokens.head? = some .value
          match readNodeUnless fuel isMissing .flow anchors rest with
          | some (key, anchors, rest) => readFlowValue fuel (key :: nodes) anchors rest
          | none => none
      | some (.value :: rest) => readFlowValue fuel (.null :: nodes) anchors (.value :: rest)
      | some tokens =>
          match readNode fuel .flow anchors tokens with
          | some (key, anchors, rest) => readFlowEntries fuel false (.null :: key :: nodes) anchors rest
          | none => none

def readFlowValue : Nat → List Node → Anchors → List Token → Step Node
  | 0, _, _, _ => none
  | fuel + 1, nodes, anchors, tokens =>
      match tokens with
      | .value :: rest =>
          match readNodeUnless fuel endsFlowEntry .flow anchors rest with
          | some (value, anchors, rest) => readFlowEntries fuel false (value :: nodes) anchors rest
          | none => none
      | tokens => readFlowEntries fuel false (.null :: nodes) anchors tokens

def readFlowItems : Nat → Bool → List Node → Anchors → List Token → Step Node
  | 0, _, _, _, _ => none
  | fuel + 1, isFirst, items, anchors, tokens =>
      let separated : Option (List Token) :=
        match isFirst, tokens with
        | true, tokens => some tokens
        | false, .flowSequenceEnd :: _ => some tokens
        | false, .flowEntry :: rest => some rest
        | false, _ => none
      match separated with
      | none => none
      | some (.flowSequenceEnd :: rest) => some (.list items.reverse, anchors, rest)
      | some (.key :: rest) =>
          match readFlowPair fuel anchors rest with
          | some (item, anchors, rest) => readFlowItems fuel false (item :: items) anchors rest
          | none => none
      | some tokens =>
          match readNode fuel .flow anchors tokens with
          | some (item, anchors, rest) => readFlowItems fuel false (item :: items) anchors rest
          | none => none

/-- A single entry behind the mark of its key. The token before which a key is missing is taken in its place. -/
def readFlowPair : Nat → Anchors → List Token → Step Node
  | 0, _, _ => none
  | fuel + 1, anchors, tokens =>
      let key : Step Node :=
        match tokens with
        | .value :: rest => some (.null, anchors, rest)
        | .flowEntry :: rest => some (.null, anchors, rest)
        | .flowSequenceEnd :: rest => some (.null, anchors, rest)
        | tokens => readNode fuel .flow anchors tokens
      match key with
      | none => none
      | some (key, anchors, .value :: rest) =>
          match readNodeUnless fuel endsFlowItem .flow anchors rest with
          | some (value, anchors, rest) => some (.table (Node.pairs [key, value]), anchors, rest)
          | none => none
      | some (key, anchors, rest) => some (.table (Node.pairs [key, .null]), anchors, rest)

end

def isDirective : Token → Bool
  | .directive => true
  | _ => false

def isDocumentEnd : Token → Bool
  | .documentEnd => true
  | _ => false

def isBoundary : Token → Bool
  | .directive | .documentStart | .documentEnd => true
  | _ => false

def readMarked (fuel : Nat) (tokens : List Token) : Step Node :=
  if tokens.head?.all isBoundary then some (.null, .empty, tokens) else readNode fuel .item .empty tokens

def readDocument (tokens : List Token) : Step Node :=
  let fuel := 8 * tokens.length + 8
  match tokens.dropWhile isDirective with
  | .documentStart :: rest => readMarked fuel rest
  | _ => readNode fuel .item .empty tokens

def read? (text : String) : Option Document :=
  match Token.ofText? text with
  | none => none
  | some [] => some (.table [])
  | some tokens =>
      match readDocument tokens with
      | some (node, _, rest) => if rest.all isDocumentEnd then node.document? else none
      | none => none

end Hashgraph.Yaml
