import Hashgraph.Document.Yaml.Scalar
import Hashgraph.Document.Yaml.Token

/-! Cutting a YAML text into tokens.

Whether something is a key shows only at the colon behind it. Therefore the place of every possible key is
remembered, one for each open bracket and one outside, and the token of the key is put there later. -/

namespace Hashgraph.Yaml

/-- A place where a key may begin, and the number of tokens before it. A required key must turn out to be one. -/
structure KeyPlace where
  isRequired : Bool
  position : Nat
  index : Nat
  line : Nat
  column : Nat

/-- The state between two tokens. The innermost bracket is first in `keys`, and `adjacentAt` is the index behind
the last quoted scalar. -/
structure Lexer where
  cursor : Cursor
  tokens : Array Token
  keyAllowed : Bool
  keys : List (Option KeyPlace)
  indent : Int
  outer : List Int
  adjacentAt : Nat

namespace Lexer

def ofText (text : List Char) : Lexer := ⟨Cursor.ofText text, #[], true, [none], -1, [], 0⟩

def depth (lexer : Lexer) : Nat := lexer.keys.length - 1

def inFlow (lexer : Lexer) : Bool := 0 < lexer.depth

def push (lexer : Lexer) (token : Token) : Lexer := { lexer with tokens := lexer.tokens.push token }

def moveTo (lexer : Lexer) (cursor : Cursor) : Lexer := { lexer with cursor := cursor }

def allowKey (lexer : Lexer) (allowed : Bool) : Lexer := { lexer with keyAllowed := allowed }

def margin (lexer : Lexer) : Nat := (lexer.indent + 1).toNat

/-! ### Indentation -/

def indentTo (lexer : Lexer) (column : Nat) (start : Token) (position : Nat) : Lexer :=
  if !lexer.inFlow && lexer.indent < column then
    { lexer with
      indent := column
      outer := lexer.indent :: lexer.outer
      tokens := lexer.tokens.insertIdxIfInBounds position start }
  else lexer

def closeBlocks (column : Int) : Nat → Lexer → Lexer
  | 0, lexer => lexer
  | fuel + 1, lexer =>
      match lexer.outer with
      | [] => lexer
      | indent :: outer =>
          if column < lexer.indent then
            closeBlocks column fuel { lexer with indent := indent, outer := outer, tokens := lexer.tokens.push .blockEnd }
          else lexer

def dedentTo (lexer : Lexer) (column : Int) : Lexer :=
  if lexer.inFlow then lexer else closeBlocks column lexer.outer.length lexer

/-! ### Possible keys -/

def isStale (cursor : Cursor) (place : KeyPlace) : Bool :=
  place.line < cursor.line || place.index + 1024 < cursor.index

def dropStaleKeys (lexer : Lexer) : Option Lexer :=
  let isStale (place : KeyPlace) : Bool := isStale lexer.cursor place
  if lexer.keys.any fun key => key.any fun place => isStale place && place.isRequired then none
  else some { lexer with keys := lexer.keys.map fun key => key.filter fun place => !isStale place }

def setKey (lexer : Lexer) (key : Option KeyPlace) : Lexer := { lexer with keys := key :: lexer.keys.tail }

def currentKey (lexer : Lexer) : Option KeyPlace := lexer.keys.head?.join

def forgetKey (lexer : Lexer) : Option Lexer :=
  if lexer.currentKey.any KeyPlace.isRequired then none else some (lexer.setKey none)

def markKey (lexer : Lexer) : Option Lexer :=
  if lexer.keyAllowed then
    let cursor := lexer.cursor
    let isRequired := lexer.inFlow && lexer.indent = cursor.column
    lexer.forgetKey.map fun lexer =>
      lexer.setKey (some ⟨isRequired, lexer.tokens.size, cursor.index, cursor.line, cursor.column⟩)
  else some lexer

/-! ### Between the tokens -/

def skipFiller : Nat → Lexer → Lexer
  | 0, lexer => lexer
  | fuel + 1, lexer =>
      let c := lexer.cursor.peek
      if c = ' ' || (c = '\t' && (lexer.inFlow || !lexer.keyAllowed)) then
        skipFiller fuel (lexer.moveTo lexer.cursor.skip)
      else if isBreak c then
        let lexer := lexer.moveTo lexer.cursor.skipBreak
        skipFiller fuel (if lexer.inFlow then lexer else lexer.allowKey true)
      else if c = '#' then skipFiller fuel (lexer.moveTo lexer.cursor.skipComment)
      else lexer

/-! ### Tokens -/

def takeMark (lexer : Lexer) (token : Token) : Lexer := (lexer.moveTo lexer.cursor.skip).push token

def takeDirective (lexer : Lexer) : Option Lexer :=
  (lexer.dedentTo (-1)).forgetKey.bind fun lexer =>
    (readDirective lexer.cursor).map fun cursor => ((lexer.allowKey false).moveTo cursor).push .directive

def takeDocumentMark (lexer : Lexer) (token : Token) : Option Lexer :=
  (lexer.dedentTo (-1)).forgetKey.map fun lexer =>
    ((lexer.allowKey false).moveTo (lexer.cursor.skipMany 3)).push token

def maxDepth : Nat := 255

def takeFlowStart (lexer : Lexer) (token : Token) : Option Lexer :=
  lexer.markKey.bind fun lexer =>
    if lexer.depth = maxDepth then none
    else some (({ lexer with keys := none :: lexer.keys, keyAllowed := true }).takeMark token)

def takeFlowEnd (lexer : Lexer) (token : Token) : Option Lexer :=
  lexer.forgetKey.map fun lexer =>
    let lexer := if lexer.inFlow then { lexer with keys := lexer.keys.tail } else lexer
    (lexer.allowKey false).takeMark token

def takeFlowEntry (lexer : Lexer) : Option Lexer :=
  lexer.forgetKey.map fun lexer => (lexer.allowKey true).takeMark .flowEntry

def takeBlockEntry (lexer : Lexer) : Option Lexer :=
  if lexer.inFlow || !lexer.keyAllowed then none
  else
    (lexer.indentTo lexer.cursor.column .blockSequenceStart lexer.tokens.size).forgetKey.map fun lexer =>
      (lexer.allowKey true).takeMark .blockEntry

def openMapping (lexer : Lexer) : Option Lexer :=
  if lexer.inFlow then some lexer
  else if lexer.keyAllowed then some (lexer.indentTo lexer.cursor.column .blockMappingStart lexer.tokens.size)
  else none

def takeKey (lexer : Lexer) : Option Lexer :=
  lexer.openMapping.bind fun lexer => lexer.forgetKey.map fun lexer => (lexer.allowKey !lexer.inFlow).takeMark .key

def takeValue (lexer : Lexer) : Option Lexer :=
  match lexer.currentKey with
  | some place =>
      let lexer := { lexer with tokens := lexer.tokens.insertIdxIfInBounds place.position .key }
      let lexer := lexer.indentTo place.column .blockMappingStart place.position
      some (((lexer.setKey none).allowKey false).takeMark .value)
  | none => lexer.openMapping.map fun lexer => (lexer.allowKey !lexer.inFlow).takeMark .value

def takeContent (lexer : Lexer) (read : Cursor → Option (Token × Cursor)) : Option Lexer :=
  lexer.markKey.bind fun lexer =>
    (read lexer.cursor).map fun (token, cursor) => ((lexer.allowKey false).moveTo cursor).push token

def takeQuoted (lexer : Lexer) : Option Lexer :=
  (lexer.takeContent fun cursor => (readQuoted cursor).map fun (text, cursor) => (.scalar false text, cursor)).map
    fun lexer => { lexer with adjacentAt := lexer.cursor.index }

def takeBlock (lexer : Lexer) (isFolded : Bool) : Option Lexer :=
  (lexer.takeContent fun cursor =>
    (readBlock isFolded lexer.margin cursor.skip).map fun (text, cursor) => (.scalar false text, cursor)).map
    fun lexer => lexer.allowKey true

def takePlain (lexer : Lexer) : Option Lexer :=
  lexer.markKey.bind fun lexer =>
    (readPlain lexer.inFlow lexer.margin lexer.cursor).map fun (text, behindBreak, cursor) =>
      ((lexer.allowKey behindBreak).moveTo cursor).push (.scalar true text)

def takeToken (lexer : Lexer) : Option Lexer :=
  let cursor := lexer.cursor
  let isMark := cursor.isGapAt 1
  if cursor.column = 0 && cursor.peek = '%' then lexer.takeDirective
  else if cursor.isDocumentMark '-' then lexer.takeDocumentMark .documentStart
  else if cursor.isDocumentMark '.' then lexer.takeDocumentMark .documentEnd
  else
    match cursor.peek with
    | '[' => lexer.takeFlowStart .flowSequenceStart
    | '\x7b' => lexer.takeFlowStart .flowMappingStart
    | ']' => lexer.takeFlowEnd .flowSequenceEnd
    | '\x7d' => lexer.takeFlowEnd .flowMappingEnd
    | ',' => lexer.takeFlowEntry
    | '*' => lexer.takeContent fun cursor => (readName cursor.skip).map fun (name, cursor) => (.alias name, cursor)
    | '&' => lexer.takeContent fun cursor => (readName cursor.skip).map fun (name, cursor) => (.anchor name, cursor)
    | '!' => lexer.takeContent fun cursor => (readTag cursor).map fun (tag, cursor) => (.tag tag, cursor)
    | '\'' => lexer.takeQuoted
    | '"' => lexer.takeQuoted
    | '-' => if isMark then lexer.takeBlockEntry else lexer.takePlain
    | '?' => if isMark then lexer.takeKey else lexer.takePlain
    | ':' =>
        let isAdjacent := isFlowMark (cursor.peekAt 1) || cursor.index = lexer.adjacentAt
        if isMark || (lexer.inFlow && isAdjacent) then lexer.takeValue else lexer.takePlain
    | c =>
        if c = '|' && !lexer.inFlow then lexer.takeBlock false
        else if c = '>' && !lexer.inFlow then lexer.takeBlock true
        else if c = '%' || c = '@' || c = '\x60' then none
        else lexer.takePlain

def run : Nat → Lexer → Option (Array Token)
  | 0, _ => none
  | fuel + 1, lexer =>
      (skipFiller lexer.cursor.rest.length lexer).dropStaleKeys.bind fun lexer =>
        let lexer := lexer.dedentTo lexer.cursor.column
        if lexer.cursor.isAtEnd then (lexer.dedentTo (-1)).forgetKey.map Lexer.tokens
        else lexer.takeToken.bind (run fuel)

end Lexer

def Token.ofText? (text : String) : Option (List Token) :=
  ((Lexer.ofText text.toList).run (text.length + 2)).map Array.toList

end Hashgraph.Yaml
