import Hashgraph.Decimal.Quick
import Hashgraph.Document
import Hashgraph.Document.Number

/-! The JSON form of documents: a reader that keeps whole numbers and fractions apart, and two writers. -/

namespace Hashgraph.Json

abbrev Reader (α : Type) := List Char → Option (α × List Char)

def isBlank (c : Char) : Bool := c = ' ' || c = '\t' || c = '\n' || c = '\x0d'

def skipBlanks (text : List Char) : List Char := text.dropWhile isBlank

def hexValue? (c : Char) : Option Nat :=
  if '0' ≤ c ∧ c ≤ '9' then some (c.toNat - 48)
  else if 'a' ≤ c ∧ c ≤ 'f' then some (c.toNat - 87)
  else if 'A' ≤ c ∧ c ≤ 'F' then some (c.toNat - 55)
  else none

def readUnit : Reader Nat
  | a :: b :: c :: d :: rest =>
      match hexValue? a, hexValue? b, hexValue? c, hexValue? d with
      | some a, some b, some c, some d => some (((a * 16 + b) * 16 + c) * 16 + d, rest)
      | _, _, _, _ => none
  | _ => none

def readEscapedUnit (text : List Char) : Option (Char × List Char) :=
  match readUnit text with
  | none => none
  | some (unit, rest) =>
      if 0xd800 ≤ unit ∧ unit < 0xdc00 then
        match rest with
        | '\\' :: 'u' :: rest =>
            match readUnit rest with
            | some (low, rest) =>
                if 0xdc00 ≤ low ∧ low < 0xe000 then
                  some (Char.ofNat (0x10000 + (unit - 0xd800) * 0x400 + (low - 0xdc00)), rest)
                else none
            | none => none
        | _ => none
      else if 0xdc00 ≤ unit ∧ unit < 0xe000 then none
      else some (Char.ofNat unit, rest)

def simpleEscape? : Char → Option Char
  | '"' => some '"'
  | '\\' => some '\\'
  | '/' => some '/'
  | 'b' => some '\x08'
  | 'f' => some '\x0c'
  | 'n' => some '\n'
  | 'r' => some '\x0d'
  | 't' => some '\t'
  | _ => none

def readString : Nat → List Char → List Char → Option (String × List Char)
  | 0, _, _ => none
  | _ + 1, _, [] => none
  | _ + 1, read, '"' :: rest => some (String.ofList read.reverse, rest)
  | fuel + 1, read, '\\' :: 'u' :: rest =>
      match readEscapedUnit rest with
      | some (c, rest) => readString fuel (c :: read) rest
      | none => none
  | fuel + 1, read, '\\' :: c :: rest =>
      match simpleEscape? c with
      | some c => readString fuel (c :: read) rest
      | none => none
  | fuel + 1, read, c :: rest => if c < ' ' || c = '\\' then none else readString fuel (c :: read) rest

def isNumberChar (c : Char) : Bool :=
  NumberText.isDigit c || c = '-' || c = '+' || c = '.' || c = 'e' || c = 'E'

structure NumberParts where
  whole : List Char
  fraction : Option (List Char)
  exponent : Option Int

/-- A whole part without leading zeros, digits on both sides of a point, and digits in an exponent. -/
def numberParts? (text : List Char) : Option NumberParts :=
  let whole := text.takeWhile NumberText.isDigit
  let rest := text.dropWhile NumberText.isDigit
  let wholeOk := whole = ['0'] || (!whole.isEmpty && whole.head? ≠ some '0')
  let (fraction, rest) : Option (List Char) × List Char :=
    match rest with
    | '.' :: rest => (some (rest.takeWhile NumberText.isDigit), rest.dropWhile NumberText.isDigit)
    | rest => (none, rest)
  if !wholeOk || fraction = some [] then none
  else
    match rest with
    | [] => some ⟨whole, fraction, none⟩
    | mark :: rest =>
        if NumberText.isExponentMark mark then
          (NumberText.exponent? rest).map fun exponent => ⟨whole, fraction, some exponent⟩
        else none

/-- Whole numbers of 64 bits stay whole; all others, and minus zero, are doubles, which must be finite. -/
def NumberParts.document? (parts : NumberParts) (negative : Bool) : Option Document :=
  let float :=
    (Decimal.quickFloat? negative parts.whole (parts.fraction.getD []) (parts.exponent.getD 0)).map Document.float
  if parts.fraction.isNone && parts.exponent.isNone then
    let value := NumberText.digitsValue parts.whole
    if negative then if value ≠ 0 ∧ value ≤ Nat.pow 2 63 then some (.int (-(value : Int))) else float
    else if value < UInt64.size then some (.int value)
    else float
  else float

def number? (text : List Char) : Option Document :=
  match text with
  | '-' :: digits => (numberParts? digits).bind (NumberParts.document? · true)
  | digits => (numberParts? digits).bind (NumberParts.document? · false)

def readNumber (text : List Char) : Option (Document × List Char) :=
  (number? (text.takeWhile isNumberChar)).map fun number => (number, text.dropWhile isNumberChar)

def putEntry (key : String) (value : Document) : List (String × Document) → List (String × Document)
  | [] => [(key, value)]
  | (other, old) :: rest =>
      if other = key then (key, value) :: rest else (other, old) :: putEntry key value rest

def depthLimit : Nat := 128

mutual

def readValue : Nat → Nat → List Char → Option (Document × List Char)
  | 0, _, _ => none
  | fuel + 1, depth, text =>
      let isDeep := depthLimit ≤ depth + 1
      match skipBlanks text with
      | 'n' :: 'u' :: 'l' :: 'l' :: rest => some (.null, rest)
      | 't' :: 'r' :: 'u' :: 'e' :: rest => some (.bool true, rest)
      | 'f' :: 'a' :: 'l' :: 's' :: 'e' :: rest => some (.bool false, rest)
      | '"' :: rest => (readString (rest.length + 1) [] rest).map fun (value, rest) => (.text value, rest)
      | '[' :: rest =>
          if isDeep then none
          else
            match skipBlanks rest with
            | ']' :: rest => some (.list [], rest)
            | rest => readItems fuel (depth + 1) [] rest
      | '\x7b' :: rest =>
          if isDeep then none
          else
            match skipBlanks rest with
            | '\x7d' :: rest => some (.table [], rest)
            | rest => readEntries fuel (depth + 1) [] rest
      | rest => readNumber rest

def readItems : Nat → Nat → List Document → List Char → Option (Document × List Char)
  | 0, _, _, _ => none
  | fuel + 1, depth, items, text =>
      match readValue fuel depth text with
      | none => none
      | some (item, rest) =>
          match skipBlanks rest with
          | ',' :: rest => readItems fuel depth (item :: items) rest
          | ']' :: rest => some (.list (item :: items).reverse, rest)
          | _ => none

def readEntries : Nat → Nat → List (String × Document) → List Char → Option (Document × List Char)
  | 0, _, _, _ => none
  | fuel + 1, depth, entries, text =>
      match skipBlanks text with
      | '"' :: rest =>
          match readString (rest.length + 1) [] rest with
          | none => none
          | some (key, rest) =>
              match skipBlanks rest with
              | ':' :: rest =>
                  match readValue fuel depth rest with
                  | none => none
                  | some (value, rest) =>
                      let entries := putEntry key value entries
                      match skipBlanks rest with
                      | ',' :: rest => readEntries fuel depth entries rest
                      | '\x7d' :: rest => some (.table entries, rest)
                      | _ => none
              | _ => none
      | _ => none

end

/-- One value with nothing but blanks around it. The length of the text bounds the steps of the reading. -/
def read? (text : String) : Option Document :=
  let chars := text.toList
  match readValue (2 * chars.length + 2) 0 chars with
  | some (value, rest) => if (skipBlanks rest).isEmpty then some value else none
  | none => none

def hexDigits (value : Nat) : List Char :=
  [value / 16 % 16, value % 16].map fun digit => if digit < 10 then Char.ofNat (48 + digit) else Char.ofNat (87 + digit)

def escaped (c : Char) : List Char :=
  if c = '"' then ['\\', '"']
  else if c = '\\' then ['\\', '\\']
  else if c = '\n' then ['\\', 'n']
  else if c = '\x0d' then ['\\', 'r']
  else if c = '\t' then ['\\', 't']
  else if c = '\x08' then ['\\', 'b']
  else if c = '\x0c' then ['\\', 'f']
  else if c < ' ' then ['\\', 'u', '0', '0'] ++ hexDigits c.toNat
  else [c]

def quoted (text : String) : String := "\"" ++ String.ofList (text.toList.flatMap escaped) ++ "\""

structure Layout where
  newline : Nat → String
  colon : String

def Layout.compact : Layout := ⟨fun _ => "", ":"⟩

def Layout.pretty : Layout := ⟨fun depth => "\n" ++ String.ofList (List.replicate (2 * depth) ' '), ": "⟩

def Layout.enclose (layout : Layout) (depth : Nat) (first last : String) (items : List String) : String :=
  if items.isEmpty then first ++ last
  else
    let inner := layout.newline (depth + 1)
    first ++ inner ++ ("," ++ inner).intercalate items ++ layout.newline depth ++ last

mutual

def write (layout : Layout) (depth : Nat) : Document → String
  | .null => "null"
  | .bool value => if value then "true" else "false"
  | .int value => (if value < 0 then "-" else "") ++ digitText value.natAbs
  | .float value => FloatStyle.scientific.write value
  | .text value => quoted value
  | .moment value => quoted value
  | .list items => layout.enclose depth "[" "]" (writeItems layout (depth + 1) items)
  | .table entries => layout.enclose depth "\x7b" "\x7d" (writeEntries layout (depth + 1) entries)

def writeItems (layout : Layout) (depth : Nat) : List Document → List String
  | [] => []
  | item :: rest => write layout depth item :: writeItems layout depth rest

def writeEntries (layout : Layout) (depth : Nat) : List (String × Document) → List String
  | [] => []
  | (key, value) :: rest =>
      (quoted key ++ layout.colon ++ write layout depth value) :: writeEntries layout depth rest

end

def compact (document : Document) : String := write .compact 0 document

def pretty (document : Document) : String := write .pretty 0 document

end Hashgraph.Json
