import Hashgraph.Document.Json
import Hashgraph.Document.Yaml.Cursor

/-! Scalars of YAML as they are written: plain, in quotes, or as a block of lines. -/

namespace Hashgraph.Yaml

/-! ### Gaps inside of scalars -/

/-- Blanks and line breaks between two words. Blanks are kept in reverse, and only up to the first break; a
break that is escaped is not counted. -/
structure Gap where
  blanks : List Char
  isBroken : Bool
  hasFirst : Bool
  more : Nat

namespace Gap

def none : Gap := ⟨[], false, false, 0⟩

def reversedText (gap : Gap) : List Char :=
  if !gap.isBroken then gap.blanks
  else if gap.hasFirst && gap.more = 0 then [' ']
  else List.replicate gap.more '\n'

def read (margin : Nat) : Nat → Gap → Cursor → Option (Gap × Cursor)
  | 0, gap, cursor => some (gap, cursor)
  | fuel + 1, gap, cursor =>
      let c := cursor.peek
      if isBlank c then
        if !gap.isBroken then read margin fuel { gap with blanks := c :: gap.blanks } cursor.skip
        else if c = '\t' && cursor.column < margin then .none
        else read margin fuel gap cursor.skip
      else if isBreak c then
        if gap.isBroken then read margin fuel { gap with more := gap.more + 1 } cursor.skipBreak
        else read margin fuel ⟨[], true, true, gap.more⟩ cursor.skipBreak
      else some (gap, cursor)

end Gap

/-! ### Quoted scalars -/

def codeValue? (count : Nat) (text : List Char) : Option (Char × Nat) :=
  let value := (text.take count).foldl (fun value digit =>
    match value, Json.hexValue? digit with
    | some value, some digit => some (value * 16 + digit)
    | _, _ => none) (some 0)
  match value with
  | some value =>
      if (text.take count).length = count && value.isValidChar then some (Char.ofNat value, count + 1) else none
  | none => none

def escape? : List Char → Option (Char × Nat)
  | [] => none
  | 'x' :: rest => codeValue? 2 rest
  | 'u' :: rest => codeValue? 4 rest
  | 'U' :: rest => codeValue? 8 rest
  | c :: _ => (simple? c).map (·, 1)
where
  simple? : Char → Option Char
    | '0' => some '\x00'
    | 'a' => some '\x07'
    | 'b' => some '\x08'
    | 't' => some '\t'
    | '\t' => some '\t'
    | 'n' => some '\n'
    | 'v' => some '\x0b'
    | 'f' => some '\x0c'
    | 'r' => some '\x0d'
    | 'e' => some '\x1b'
    | ' ' => some ' '
    | '"' => some '"'
    | '\'' => some '\''
    | '\\' => some '\\'
    | 'N' => some '\u0085'
    | '_' => some '\u00a0'
    | 'L' => some '\u2028'
    | 'P' => some '\u2029'
    | _ => none

/-- Reads up to a gap, the closing quote or an escaped line break, and says whether it is the last of these.
What has been read is kept in reverse. -/
def readQuotedRun (quote : Char) : Nat → List Char → Cursor → Option (List Char × Bool × Cursor)
  | 0, _, _ => none
  | fuel + 1, read, cursor =>
      let c := cursor.peek
      if cursor.isGap then some (read, false, cursor)
      else if c = quote then
        if quote = '\'' && cursor.peekAt 1 = '\'' then readQuotedRun quote fuel ('\'' :: read) cursor.skip.skip
        else some (read, false, cursor)
      else if c = '\\' && quote = '"' then
        if isBreak (cursor.peekAt 1) then some (read, true, cursor.skip.skipBreak)
        else
          match escape? cursor.skip.rest with
          | some (c, length) => readQuotedRun quote fuel (c :: read) (cursor.skip.skipMany length)
          | none => none
      else readQuotedRun quote fuel (c :: read) cursor.skip

def readQuotedRest (quote : Char) : Nat → List Char → Cursor → Option (String × Cursor)
  | 0, _, _ => none
  | fuel + 1, read, cursor =>
      if cursor.isAnyDocumentMark || cursor.isAtEnd then none
      else
        match readQuotedRun quote (cursor.rest.length + 1) read cursor with
        | none => none
        | some (read, escapedBreak, cursor) =>
            if cursor.peek = quote then some (String.ofList read.reverse, cursor.skip)
            else
              match Gap.read 0 cursor.rest.length ⟨[], escapedBreak, false, 0⟩ cursor with
              | some (gap, cursor) => readQuotedRest quote fuel (gap.reversedText ++ read) cursor
              | none => none

def readQuoted (cursor : Cursor) : Option (String × Cursor) :=
  readQuotedRest cursor.peek (cursor.rest.length + 1) [] cursor.skip

/-! ### Plain scalars -/

/-- The part of a plain scalar before the next gap. A colon ends it if a gap follows, and between brackets
if a mark does. -/
def plainRun (inFlow : Bool) : List Char → List Char
  | [] => []
  | c :: rest =>
      let endsBefore (next : Char) : Bool := isBlank next || isBreak next || (inFlow && isFlowMark next)
      if isBlank c || isBreak c then []
      else if c = ':' && rest.head?.all endsBefore then []
      else if inFlow && isFlowMark c then []
      else c :: plainRun inFlow rest

/-- Reads a plain scalar to its end, and says whether that lies behind a line break. Outside of brackets
lines left of the margin do not belong to it. -/
def readPlainRest (inFlow : Bool) (margin : Nat) :
    Nat → List Char → Gap → Cursor → Option (String × Bool × Cursor)
  | 0, _, _, _ => none
  | fuel + 1, read, gap, cursor =>
      if cursor.isAnyDocumentMark || cursor.peek = '#' then some (String.ofList read.reverse, gap.isBroken, cursor)
      else
        let run := plainRun inFlow cursor.rest
        let read := if run.isEmpty then read else run.reverse ++ gap.reversedText ++ read
        let gap := if run.isEmpty then gap else .none
        let cursor := cursor.skipMany run.length
        if cursor.isAtEnd || !cursor.isGap then some (String.ofList read.reverse, gap.isBroken, cursor)
        else
          match Gap.read margin cursor.rest.length gap cursor with
          | none => none
          | some (gap, cursor) =>
              if !inFlow && cursor.column < margin then some (String.ofList read.reverse, gap.isBroken, cursor)
              else readPlainRest inFlow margin fuel read gap cursor

def readPlain (inFlow : Bool) (margin : Nat) (cursor : Cursor) : Option (String × Bool × Cursor) :=
  readPlainRest inFlow margin (cursor.rest.length + 2) [] .none cursor

/-! ### Blocks of lines -/

inductive Chomping where
  | strip
  | clip
  | keep
deriving DecidableEq

def chomping? : Char → Option Chomping
  | '+' => some .keep
  | '-' => some .strip
  | _ => none

def readIndentation (cursor : Cursor) : Option (Nat × Cursor) :=
  let c := cursor.peek
  if c = '0' then none
  else if '1' ≤ c && c ≤ '9' then some (c.toNat - 48, cursor.skip)
  else some (0, cursor)

def readChomping (cursor : Cursor) : Chomping × Cursor :=
  match chomping? cursor.peek with
  | some chomping => (chomping, cursor.skip)
  | none => (.clip, cursor)

def readBlockHeader (cursor : Cursor) : Option (Chomping × Nat × Cursor) :=
  let header : Option (Chomping × Nat × Cursor) :=
    match chomping? cursor.peek with
    | some chomping => (readIndentation cursor.skip).map fun (indentation, cursor) => (chomping, indentation, cursor)
    | none => (readIndentation cursor).map fun (indentation, cursor) =>
        if indentation = 0 then (.clip, 0, cursor)
        else
          let (chomping, cursor) := readChomping cursor
          (chomping, indentation, cursor)
  header.bind fun (chomping, indentation, cursor) =>
    let cursor := (cursor.skipWhile isBlank).skipComment
    if cursor.isLineEnd then some (chomping, indentation, cursor.skipBreak) else none

def skipIndentation (indent : Nat) : Nat → Cursor → Cursor
  | 0, cursor => cursor
  | fuel + 1, cursor =>
      if (indent = 0 || cursor.column < indent) && cursor.peek = ' ' then skipIndentation indent fuel cursor.skip
      else cursor

/-- Reads empty lines and the indentation behind them; tabs are no indentation. Returns the number of lines
and the widest column that blanks have reached. -/
def readEmptyLines (indent : Nat) : Nat → Nat → Nat → Cursor → Option (Nat × Nat × Cursor)
  | 0, _, _, _ => none
  | fuel + 1, lines, widest, cursor =>
      let cursor := skipIndentation indent cursor.rest.length cursor
      let widest := max widest cursor.column
      if (indent = 0 || cursor.column < indent) && cursor.peek = '\t' then none
      else if isBreak cursor.peek then readEmptyLines indent fuel (lines + 1) widest cursor.skipBreak
      else some (lines, widest, cursor)

structure BlockLayout where
  isFolded : Bool
  chomping : Chomping
  indent : Nat

/-- Reads the lines of a block. The state is what has been read, in reverse, whether a break is open behind
it, the number of empty lines then, and whether the last line began with a blank: breaks beside such lines
are never folded. -/
def readBlockLines (layout : BlockLayout) :
    Nat → List Char → Bool → Nat → Bool → Cursor → Option (String × Cursor)
  | 0, _, _, _, _, _ => none
  | fuel + 1, read, isOpen, empty, wasBlank, cursor =>
      if cursor.column = layout.indent && !cursor.isAtEnd then
        let startsBlank := isBlank cursor.peek
        let join : List Char :=
          if !isOpen then []
          else if layout.isFolded && !wasBlank && !startsBlank then if empty = 0 then [' '] else []
          else ['\n']
        let line := cursor.rest.takeWhile fun c => !isBreak c
        let read := line.reverse ++ List.replicate empty '\n' ++ join ++ read
        let cursor := cursor.skipMany line.length
        if cursor.isAtEnd then some (String.ofList read.reverse, cursor)
        else
          match readEmptyLines layout.indent (cursor.rest.length + 1) 0 0 cursor.skipBreak with
          | some (empty, _, cursor) => readBlockLines layout fuel read true empty startsBlank cursor
          | none => none
      else
        let read := if isOpen && layout.chomping ≠ .strip then '\n' :: read else read
        let read := if layout.chomping = .keep then List.replicate empty '\n' ++ read else read
        some (String.ofList read.reverse, cursor)

/-- A block behind its mark, inside of a collection at column `margin - 1`. Without a given indentation the
widest of the blank lines in front and the first other line decides. -/
def readBlock (isFolded : Bool) (margin : Nat) (cursor : Cursor) : Option (String × Cursor) :=
  (readBlockHeader cursor).bind fun (chomping, indentation, cursor) =>
    let given := if indentation = 0 then 0 else margin - 1 + indentation
    (readEmptyLines given (cursor.rest.length + 1) 0 0 cursor).bind fun (empty, widest, cursor) =>
      let indent := if given = 0 then max (max widest margin) 1 else given
      readBlockLines ⟨isFolded, chomping, indent⟩ (cursor.rest.length + 1) [] false empty false cursor

end Hashgraph.Yaml
