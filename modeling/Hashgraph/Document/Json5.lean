import Hashgraph.Document.Json
import Hashgraph.Unicode.Class

/-! Reading JSON5: JSON with comments, trailing commas, names as keys, strings in either quotes and more
forms of numbers. -/

namespace Hashgraph.Json5

def isLineEnd (c : Char) : Bool := c = '\n' || c = '\x0d' || c = '\u2028' || c = '\u2029'

def isBlank (c : Char) : Bool :=
  c = '\t' || c = '\x0b' || c = '\x0c' || c = '\ufeff' || isLineEnd c || Unicode.isSpace c

def behindComment? : List Char → Option (List Char)
  | '*' :: '/' :: rest => some rest
  | _ :: rest => behindComment? rest
  | [] => none

def skipFiller : Nat → List Char → List Char
  | 0, text => text
  | fuel + 1, text =>
      match text.dropWhile isBlank with
      | '/' :: '/' :: rest => skipFiller fuel (rest.dropWhile fun c => !isLineEnd c)
      | '/' :: '*' :: rest =>
          match behindComment? rest with
          | some rest => skipFiller fuel rest
          | none => '/' :: '*' :: rest
      | text => text

def skip (text : List Char) : List Char := skipFiller (text.length + 1) text

def escape? : List Char → Option (List Char × List Char)
  | 'u' :: rest => (Json.readEscapedUnit rest).map fun (c, rest) => ([c], rest)
  | 'x' :: a :: b :: rest =>
      match Json.hexValue? a, Json.hexValue? b with
      | some a, some b => some ([Char.ofNat (a * 16 + b)], rest)
      | _, _ => none
  | 'x' :: _ => none
  | '\x0d' :: '\n' :: rest => some ([], rest)
  | 'v' :: rest => some (['\x0b'], rest)
  | '0' :: rest => some (['\x00'], rest)
  | c :: rest =>
      if isLineEnd c then some ([], rest)
      else if NumberText.isDigit c then none
      else some ([(Json.simpleEscape? c).getD c], rest)
  | [] => none

def readString (quote : Char) : Nat → List Char → List Char → Option (String × List Char)
  | 0, _, _ => none
  | _ + 1, _, [] => none
  | fuel + 1, read, c :: rest =>
      if c = quote then some (String.ofList read.reverse, rest)
      else if c = '\\' then
        match escape? rest with
        | some (chars, rest) => readString quote fuel (chars ++ read) rest
        | none => none
      else if isLineEnd c then none
      else readString quote fuel (c :: read) rest

def hexNumber? (digits : List Char) : Option Document :=
  let value := digits.foldl (fun value digit =>
    match value, Json.hexValue? digit with
    | some value, some digit => some (value * 16 + digit)
    | _, _ => none) (some 0)
  match value with
  | some value => if !digits.isEmpty && value < Nat.pow 2 32 then some (.int value) else none
  | none => none

def hasPlainStart (digits : List Char) : Bool :=
  match digits.takeWhile NumberText.isDigit with
  | '0' :: _ :: _ => false
  | _ => true

/-- Whole numbers are signed 64-bit numbers, or unsigned hexadecimal ones of 32 bits. Doubles are finite, unless
they are named; no name takes a plus sign. -/
def number? (text : List Char) : Option Document :=
  match String.ofList text with
  | "Infinity" => some (.float (1.0 / 0.0))
  | "-Infinity" => some (.float (-(1.0 / 0.0)))
  | "NaN" => some (.float (0.0 / 0.0))
  | "-NaN" => some (.float (0.0 / 0.0))
  | word =>
      match text with
      | '0' :: 'x' :: hex => hexNumber? hex
      | '0' :: 'X' :: hex => hexNumber? hex
      | _ =>
          let (negative, digits) := NumberText.splitSign text
          if !hasPlainStart digits then none
          else if digits.all NumberText.isDigit then (NumberText.int64? word).map Document.int
          else ((NumberText.decimal? negative digits).filter Float.isFinite).map Document.float

/-! ### Names -/

def isNameStart (c : Char) : Bool := c = '_' || c = '$' || Unicode.isLetter c

def isNameChar (c : Char) : Bool := isNameStart c || Unicode.isNameMark c || c = '\u200c' || c = '\u200d'

def readName : Nat → List Char → List Char → Option (List Char × List Char)
  | 0, _, _ => none
  | fuel + 1, read, text =>
      match text with
      | '\\' :: 'u' :: rest => (Json.readEscapedUnit rest).bind fun (c, rest) => readName fuel (c :: read) rest
      | c :: rest =>
          if if read.isEmpty then isNameStart c else isNameChar c then readName fuel (c :: read) rest
          else some (read.reverse, text)
      | [] => some (read.reverse, [])

def isNumberChar (c : Char) : Bool := c.isAlphanum || c = '+' || c = '-' || c = '.'

def readKey (text : List Char) : Option (String × List Char) :=
  match text with
  | '"' :: rest => readString '"' (rest.length + 1) [] rest
  | '\'' :: rest => readString '\'' (rest.length + 1) [] rest
  | text =>
      match readName (text.length + 1) [] text with
      | some (name, rest) => if name.isEmpty then none else some (String.ofList name, rest)
      | none => none

def readScalar (text : List Char) : Option (Document × List Char) :=
  let rest := text.dropWhile isNumberChar
  match String.ofList (text.takeWhile isNumberChar) with
  | "null" => some (.null, rest)
  | "true" => some (.bool true, rest)
  | "false" => some (.bool false, rest)
  | number => (number? number.toList).map fun number => (number, rest)

mutual

def readValue : Nat → List Char → Option (Document × List Char)
  | 0, _ => none
  | fuel + 1, text =>
      match skip text with
      | '[' :: rest => readItems fuel [] rest
      | '\x7b' :: rest => readEntries fuel [] rest
      | '"' :: rest => (readString '"' (rest.length + 1) [] rest).map fun (value, rest) => (.text value, rest)
      | '\'' :: rest => (readString '\'' (rest.length + 1) [] rest).map fun (value, rest) => (.text value, rest)
      | text => readScalar text

def readItems : Nat → List Document → List Char → Option (Document × List Char)
  | 0, _, _ => none
  | fuel + 1, items, text =>
      match skip text with
      | ']' :: rest => some (.list items.reverse, rest)
      | text =>
          match readValue fuel text with
          | none => none
          | some (item, rest) =>
              match skip rest with
              | ',' :: rest => readItems fuel (item :: items) rest
              | ']' :: rest => some (.list (item :: items).reverse, rest)
              | _ => none

def readEntries : Nat → List (String × Document) → List Char → Option (Document × List Char)
  | 0, _, _ => none
  | fuel + 1, entries, text =>
      match skip text with
      | '\x7d' :: rest => some (.table entries, rest)
      | text =>
          match readKey text with
          | none => none
          | some (key, rest) =>
              match skip rest with
              | ':' :: rest =>
                  match readValue fuel rest with
                  | none => none
                  | some (value, rest) =>
                      let entries := Json.putEntry key value entries
                      match skip rest with
                      | ',' :: rest => readEntries fuel entries rest
                      | '\x7d' :: rest => some (.table entries, rest)
                      | _ => none
              | _ => none

end

def read? (text : String) : Option Document :=
  let chars := text.toList
  match readValue (2 * chars.length + 2) chars with
  | some (value, rest) => if (skip rest).isEmpty then some value else none
  | none => none

end Hashgraph.Json5
