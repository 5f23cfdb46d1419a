import Hashgraph.Document.Json
import Hashgraph.Document.Yaml.Cursor

/-! Tokens of YAML, and the reading of tags, names of nodes and directives. -/

namespace Hashgraph.Yaml

structure Tag where
  handle : String
  suffix : String
deriving DecidableEq

inductive Token where
  | directive
  | documentStart
  | documentEnd
  | blockSequenceStart
  | blockMappingStart
  | blockEnd
  | blockEntry
  | flowSequenceStart
  | flowSequenceEnd
  | flowMappingStart
  | flowMappingEnd
  | flowEntry
  | key
  | value
  | anchor (name : String)
  | alias (name : String)
  | tag (tag : Tag)
  | scalar (isPlain : Bool) (text : String)
deriving DecidableEq

/-! ### Names of nodes -/

def readName (cursor : Cursor) : Option (String × Cursor) :=
  let name := cursor.rest.takeWhile isNameChar
  let cursor := cursor.skipMany name.length
  if !name.isEmpty && (cursor.isGap || "?:,]\x7d%@\x60".contains cursor.peek) then some (String.ofList name, cursor)
  else none

/-! ### Tags -/

def isUriChar (c : Char) : Bool := isNameChar c || ";/?:@&=+$,.!~*'()[]%".contains c

def octet? : List Char → Option Nat
  | '%' :: a :: b :: _ =>
      match Json.hexValue? a, Json.hexValue? b with
      | some a, some b => some (a * 16 + b)
      | _, _ => none
  | _ => none

def octetsBehind? (first : Nat) : Option Nat :=
  if first < 0x80 then some 0
  else if 0xc0 ≤ first && first < 0xe0 then some 1
  else if 0xe0 ≤ first && first < 0xf0 then some 2
  else if 0xf0 ≤ first && first < 0xf8 then some 3
  else none

def readOctets : Nat → Nat → Cursor → Option (Char × Cursor)
  | 0, code, cursor => if code.isValidChar then some (Char.ofNat code, cursor) else none
  | count + 1, code, cursor =>
      match octet? cursor.rest with
      | some octet =>
          if 0x80 ≤ octet && octet < 0xc0 then readOctets count (code * 256 + octet) (cursor.skipMany 3) else none
      | none => none

def readEscapedOctets (cursor : Cursor) : Option (Char × Cursor) :=
  (octet? cursor.rest).bind fun first =>
    (octetsBehind? first).bind fun count => readOctets count first (cursor.skipMany 3)

def readUri : Nat → List Char → Cursor → Option (List Char × Cursor)
  | 0, _, _ => none
  | fuel + 1, read, cursor =>
      if cursor.isAtEnd || !isUriChar cursor.peek then some (read.reverse, cursor)
      else if cursor.peek = '%' then
        match readEscapedOctets cursor with
        | some (c, cursor) => readUri fuel (c :: read) cursor
        | none => none
      else readUri fuel (cursor.peek :: read) cursor.skip

def readUriFrom (cursor : Cursor) : Option (List Char × Cursor) := readUri (cursor.rest.length + 1) [] cursor

/-- A handle is an exclamation mark, or a word between two of them; the second one may be missing. -/
def readHandle (cursor : Cursor) : Option (List Char × Cursor) :=
  if cursor.peek ≠ '!' then none
  else
    let name := cursor.skip.rest.takeWhile isNameChar
    let cursor := cursor.skip.skipMany name.length
    if cursor.peek = '!' then some ('!' :: name ++ ['!'], cursor.skip) else some ('!' :: name, cursor)

/-- A tag is a whole address in angle brackets, or a suffix behind its handle. A lone exclamation mark is a tag
without a handle. -/
def readTagParts (cursor : Cursor) : Option (Tag × Cursor) :=
  if cursor.peekAt 1 = '<' then
    match readUriFrom (cursor.skipMany 2) with
    | some (suffix, cursor) =>
        if !suffix.isEmpty && cursor.peek = '>' then some (⟨"", String.ofList suffix⟩, cursor.skip) else none
    | none => none
  else
    match readHandle cursor with
    | none => none
    | some (handle, cursor) =>
        match readUriFrom cursor with
        | none => none
        | some (suffix, cursor) =>
            if 2 ≤ handle.length && handle.getLast? = some '!' then
              if suffix.isEmpty then none else some (⟨String.ofList handle, String.ofList suffix⟩, cursor)
            else
              let suffix := handle.tail ++ suffix
              some (if suffix.isEmpty then ⟨"", "!"⟩ else ⟨"!", String.ofList suffix⟩, cursor)

def readTag (cursor : Cursor) : Option (Tag × Cursor) :=
  (readTagParts cursor).filter fun (_, cursor) => cursor.isGap

/-! ### Directives -/

def readVersionNumber (cursor : Cursor) : Option Cursor :=
  let digits := cursor.rest.takeWhile Char.isDigit
  if digits.isEmpty || 9 < digits.length then none else some (cursor.skipMany digits.length)

def readVersion (cursor : Cursor) : Option Cursor :=
  (readVersionNumber (cursor.skipWhile isBlank)).bind fun cursor =>
    if cursor.peek = '.' then readVersionNumber cursor.skip else none

def readTagDirective (cursor : Cursor) : Option Cursor :=
  (readHandle (cursor.skipWhile isBlank)).bind fun (handle, cursor) =>
    if 2 ≤ handle.length && handle.getLast? ≠ some '!' then none
    else
      (readUriFrom (cursor.skipWhile isBlank)).bind fun (address, cursor) =>
        if !address.isEmpty && cursor.isGap then some cursor else none

def readDirective (cursor : Cursor) : Option Cursor :=
  let name := cursor.skip.rest.takeWhile isNameChar
  let cursor := cursor.skip.skipMany name.length
  if name.isEmpty || !cursor.isGap then none
  else
    let behind :=
      match String.ofList name with
      | "YAML" => readVersion cursor
      | "TAG" => readTagDirective cursor
      | _ => some (cursor.skipWhile fun c => !isBreak c)
    behind.bind fun cursor =>
      let cursor := (cursor.skipWhile isBlank).skipComment
      if cursor.isLineEnd then some cursor.skipBreak else none

end Hashgraph.Yaml
