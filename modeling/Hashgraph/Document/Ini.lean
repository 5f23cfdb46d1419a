import Hashgraph.Document.Json
import Hashgraph.Unicode.Class

/-! Reading INI files: sections of keys, whose values are texts. Keys before the first section stand for
themselves. -/

namespace Hashgraph.Ini

def trim (text : List Char) : String := String.ofList (Unicode.trim text)

def readCode (text : List Char) : Option (Char × List Char) :=
  let unit : Option (Nat × List Char) :=
    match text with
    | '+' :: rest => (Json.readUnit ('0' :: rest))
    | rest => Json.readUnit rest
  unit.bind fun (code, rest) => if code.isValidChar then some (Char.ofNat code, rest) else none

def escape? : List Char → Option (List Char × List Char)
  | '0' :: rest => some (['\x00'], rest)
  | 'a' :: rest => some (['\x07'], rest)
  | 'b' :: rest => some (['\x08'], rest)
  | 't' :: rest => some (['\t'], rest)
  | 'r' :: rest => some (['\x0d'], rest)
  | 'n' :: rest => some (['\n'], rest)
  | '\n' :: rest => some ([], rest)
  | 'x' :: rest => (readCode rest).map fun (c, rest) => ([c], rest)
  | c :: rest => some ([c], rest)
  | [] => none

def readUntil (stops : Char → Bool) (endStops : Bool) : Nat → List Char → List Char → Option (List Char × List Char)
  | 0, _, _ => none
  | _ + 1, read, [] => if endStops then some (read.reverse, []) else none
  | fuel + 1, read, c :: rest =>
      if stops c then some (read.reverse, c :: rest)
      else if c = '\\' then
        match escape? rest with
        | some (chars, rest) => readUntil stops endStops fuel (chars.reverse ++ read) rest
        | none => none
      else readUntil stops endStops fuel (c :: read) rest

def isLineEnd (c : Char) : Bool := c = '\n' || c = '\x0d'

def readLine (text : List Char) : Option (List Char × List Char) :=
  readUntil isLineEnd true (text.length + 1) [] text

def readValue (text : List Char) : Option (String × List Char) :=
  let text := text.dropWhile fun c => Unicode.isWhiteSpace c && !isLineEnd c
  let value : Option (List Char × List Char) :=
    match text with
    | [] => some ([], [])
    | quote :: rest =>
        if quote = '"' || quote = '\'' then
          match readUntil (· = quote) false (rest.length + 1) [] rest with
          | some (inner, rest) => (readLine rest.tail).map fun (behind, rest) => (inner ++ behind, rest)
          | none => none
        else readLine (quote :: rest)
  value.map fun (value, rest) => (trim value, rest)

structure Section where
  name : Option String
  entries : List (String × Document)

def addEntry (key value : String) : List Section → List Section
  | [] => [⟨none, [(key, .text value)]⟩]
  | last :: before => { last with entries := Json.putEntry key (.text value) last.entries } :: before

/-- Reads sections, the last one in front. A comment begins with a line: nothing stands before it. -/
def readSections : Nat → Bool → List Section → List Char → Option (List Section)
  | 0, _, _, _ => none
  | _ + 1, _, sections, [] => some sections
  | fuel + 1, atStart, sections, c :: rest =>
      if Unicode.isWhiteSpace c then readSections fuel (c = '\n') sections rest
      else if c = ';' || c = '#' then
        if atStart then readSections fuel false sections (rest.dropWhile fun c => c ≠ '\n') else none
      else if c = '[' then
        match readUntil (· = ']') false (rest.length + 1) [] rest with
        | some (name, rest) => readSections fuel false (⟨some (trim name), []⟩ :: sections) rest.tail
        | none => none
      else
        match readUntil (fun c => c = '=' || c = ':') false (rest.length + 2) [] (c :: rest) with
        | some (key, rest) =>
            let key := trim key
            if key.isEmpty then none
            else
              match readValue rest.tail with
              | some (value, rest) => readSections fuel false (addEntry key value sections) rest
              | none => none
        | none => none

def putSection (entries : List (String × Document)) (part : Section) : List (String × Document) :=
  match part.name with
  | none => part.entries.foldl (fun entries (key, value) => Json.putEntry key value entries) entries
  | some name => Json.putEntry name (.table part.entries) entries

def read? (text : String) : Option Document :=
  let chars := text.toList
  (readSections (chars.length + 1) true [] chars).map fun sections =>
    .table (sections.reverse.foldl putSection [])

end Hashgraph.Ini
