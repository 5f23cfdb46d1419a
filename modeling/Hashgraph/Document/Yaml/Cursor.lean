/-! A place in a YAML text, and the classes of characters that matter there. -/

namespace Hashgraph.Yaml

structure Cursor where
  rest : List Char
  index : Nat
  line : Nat
  column : Nat

def isBreak (c : Char) : Bool := c = '\n' || c = '\x0d'

def isBlank (c : Char) : Bool := c = ' ' || c = '\t'

def isFlowMark (c : Char) : Bool := c = ',' || c = '[' || c = ']' || c = '\x7b' || c = '\x7d'

def isNameChar (c : Char) : Bool := c.isAlphanum || c = '_' || c = '-'

namespace Cursor

def ofText (text : List Char) : Cursor := ⟨text.takeWhile (· ≠ '\x00'), 0, 0, 0⟩

def isAtEnd (cursor : Cursor) : Bool := cursor.rest.isEmpty

def peek (cursor : Cursor) : Char := cursor.rest.headD '\x00'

def peekAt (cursor : Cursor) (distance : Nat) : Char := cursor.rest.getD distance '\x00'

def skip (cursor : Cursor) : Cursor :=
  match cursor.rest with
  | [] => cursor
  | '\n' :: rest => ⟨rest, cursor.index + 1, cursor.line + 1, 0⟩
  | _ :: rest => ⟨rest, cursor.index + 1, cursor.line, cursor.column + 1⟩

def skipMany : Nat → Cursor → Cursor
  | 0, cursor => cursor
  | count + 1, cursor => skipMany count cursor.skip

def skipWhile (cursor : Cursor) (accepts : Char → Bool) : Cursor :=
  skipMany (cursor.rest.takeWhile accepts).length cursor

def skipBreak (cursor : Cursor) : Cursor :=
  match cursor.rest with
  | '\x0d' :: '\n' :: _ => cursor.skip.skip
  | c :: _ => if isBreak c then cursor.skip else cursor
  | [] => cursor

def isGapAt (cursor : Cursor) (distance : Nat) : Bool :=
  let c := cursor.peekAt distance
  isBlank c || isBreak c || c = '\x00'

def isGap (cursor : Cursor) : Bool := cursor.isGapAt 0

def isLineEnd (cursor : Cursor) : Bool := cursor.isAtEnd || isBreak cursor.peek

def isDocumentMark (cursor : Cursor) (mark : Char) : Bool :=
  cursor.column = 0 && cursor.rest.take 3 = [mark, mark, mark] && cursor.isGapAt 3

def isAnyDocumentMark (cursor : Cursor) : Bool := cursor.isDocumentMark '-' || cursor.isDocumentMark '.'

def skipComment (cursor : Cursor) : Cursor :=
  if cursor.peek = '#' then cursor.skipWhile fun c => !isBreak c else cursor

end Cursor

end Hashgraph.Yaml
