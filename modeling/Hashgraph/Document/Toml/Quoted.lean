import Hashgraph.Document.Json

/-! Strings of TOML: basic ones with escapes and literal ones without, each on one line or on several. -/

namespace Hashgraph.Toml

def isPlain (c : Char) : Bool := c = '\t' || (' ' ≤ c && c ≠ '\x7f')

def hexValue? (digits : List Char) : Option Nat :=
  digits.foldl (fun value digit =>
    match value, Json.hexValue? digit with
    | some value, some digit => some (value * 16 + digit)
    | _, _ => none) (some 0)

def scalarValue? (count : Nat) (text : List Char) : Option (Char × List Char) :=
  let digits := text.take count
  if digits.length ≠ count then none
  else
    (hexValue? digits).bind fun value =>
      if value < 0xd800 ∨ (0xe000 ≤ value ∧ value < 0x110000) then some (Char.ofNat value, text.drop count)
      else none

def escape? : List Char → Option (Char × List Char)
  | 'b' :: rest => some ('\x08', rest)
  | 't' :: rest => some ('\t', rest)
  | 'n' :: rest => some ('\n', rest)
  | 'f' :: rest => some ('\x0c', rest)
  | 'r' :: rest => some ('\x0d', rest)
  | '"' :: rest => some ('"', rest)
  | '\\' :: rest => some ('\\', rest)
  | 'u' :: rest => scalarValue? 4 rest
  | 'U' :: rest => scalarValue? 8 rest
  | _ => none

def readBasic : Nat → List Char → List Char → Option (String × List Char)
  | 0, _, _ => none
  | _ + 1, _, [] => none
  | _ + 1, read, '"' :: rest => some (String.ofList read.reverse, rest)
  | fuel + 1, read, '\\' :: rest =>
      match escape? rest with
      | some (c, rest) => readBasic fuel (c :: read) rest
      | none => none
  | fuel + 1, read, c :: rest => if isPlain c then readBasic fuel (c :: read) rest else none

def readLiteral : List Char → List Char → Option (String × List Char)
  | _, [] => none
  | read, c :: rest =>
      if c = '\'' then some (String.ofList read.reverse, rest)
      else if isPlain c then readLiteral (c :: read) rest
      else none

def lineEnd? : List Char → Option (List Char)
  | '\n' :: rest => some rest
  | '\x0d' :: '\n' :: rest => some rest
  | _ => none

def isSpace (c : Char) : Bool := c = ' ' || c = '\t'

def skipSpaces (text : List Char) : List Char := text.dropWhile isSpace

def skipSpacesAndLines : Nat → List Char → List Char
  | 0, text => text
  | fuel + 1, text =>
      let text := skipSpaces text
      match lineEnd? text with
      | some rest => skipSpacesAndLines fuel rest
      | none => text

/-- A run of three to five quotes ends a string of several lines; those beyond three belong to it. -/
def closing? (quote : Char) (text : List Char) : Option (List Char × List Char) :=
  let count := (text.takeWhile (· = quote)).length
  if 3 ≤ count then
    let kept := min (count - 3) 2
    some (List.replicate kept quote, text.drop (kept + 3))
  else none

def readLines (quote : Char) (escapes : Bool) : Nat → List Char → List Char → Option (String × List Char)
  | 0, _, _ => none
  | _ + 1, _, [] => none
  | fuel + 1, read, c :: rest =>
      if c = quote then
        match closing? quote (c :: rest) with
        | some (kept, rest) => some (String.ofList (kept ++ read).reverse, rest)
        | none => readLines quote escapes fuel (c :: read) rest
      else if c = '\\' && escapes then
        match lineEnd? (skipSpaces rest) with
        | some next => readLines quote escapes fuel read (skipSpacesAndLines next.length next)
        | none =>
            match escape? rest with
            | some (c, rest) => readLines quote escapes fuel (c :: read) rest
            | none => none
      else
        match lineEnd? (c :: rest) with
        | some rest => readLines quote escapes fuel ('\n' :: read) rest
        | none => if isPlain c then readLines quote escapes fuel (c :: read) rest else none

def readMultiline (quote : Char) (escapes : Bool) (text : List Char) : Option (String × List Char) :=
  let text := (lineEnd? text).getD text
  readLines quote escapes (text.length + 1) [] text

def readString? (text : List Char) : Option (String × List Char) :=
  match text with
  | '"' :: '"' :: '"' :: rest => readMultiline '"' true rest
  | '"' :: rest => readBasic (rest.length + 1) [] rest
  | '\'' :: '\'' :: '\'' :: rest => readMultiline '\'' false rest
  | '\'' :: rest => readLiteral [] rest
  | _ => none

/-! ### Writing -/

def longestRun (target : Char) : Nat → Nat → List Char → Nat
  | _, longest, [] => longest
  | run, longest, c :: rest =>
      if c = target then longestRun target (run + 1) (max longest (run + 1)) rest
      else longestRun target 0 longest rest

def needsCode (c : Char) : Bool := (c < ' ' && c ≠ '\t' && c ≠ '\n') || c = '\x7f'

def hexFour (value : Nat) : List Char :=
  [value / 4096 % 16, value / 256 % 16, value / 16 % 16, value % 16].map fun digit =>
    if digit < 10 then Char.ofNat (48 + digit) else Char.ofNat (55 + digit)

def escapedChar (lines : Bool) (c : Char) : List Char :=
  if c = '\x08' then ['\\', 'b']
  else if c = '\t' then ['\\', 't']
  else if c = '\n' then if lines then ['\n'] else ['\\', 'n']
  else if c = '\x0c' then ['\\', 'f']
  else if c = '\x0d' then ['\\', 'r']
  else if c = '\\' then ['\\', '\\']
  else if c < ' ' ∨ c = '\x7f' then '\\' :: 'u' :: hexFour c.toNat
  else [c]

/-- Escapes a text; of quotes in a row so many stay as they are, counted anew behind every escape. -/
def escapedText (lines : Bool) (allowed : Nat) : Nat → List Char → List Char
  | _, [] => []
  | run, c :: rest =>
      if c = '"' then
        if run < allowed then '"' :: escapedText lines allowed (run + 1) rest
        else '\\' :: '"' :: escapedText lines allowed 0 rest
      else escapedChar lines c ++ escapedText lines allowed 0 rest

def basicText (text : List Char) : List Char := '"' :: escapedText false 0 0 text ++ ['"']

def openingLine (text : List Char) : List Char := if text.contains '\n' then ['\n'] else []

def basicLines (text : List Char) : List Char :=
  List.replicate 3 '"' ++ openingLine text ++ escapedText true 2 0 text ++ List.replicate 3 '"'

def literalLines (text : List Char) : List Char :=
  List.replicate 3 '\'' ++ openingLine text ++ text ++ List.replicate 3 '\''

def quoted (text : String) : String :=
  let chars := text.toList
  let codes := chars.any needsCode
  let backslash := chars.contains '\\'
  let lines := chars.contains '\n'
  let singles := longestRun '\'' 0 0 chars
  let doubles := longestRun '"' 0 0 chars
  String.ofList <|
    if !codes && !backslash && doubles = 0 && !lines then basicText chars
    else if !codes && singles = 0 && !lines then '\'' :: chars ++ ['\'']
    else if !codes && !backslash && doubles ≤ 2 then basicLines chars
    else if !codes && singles ≤ 2 then literalLines chars
    else if lines then basicLines chars
    else basicText chars

end Hashgraph.Toml
