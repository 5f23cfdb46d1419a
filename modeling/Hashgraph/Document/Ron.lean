import Hashgraph.Document.Json

/-! Reading RON: records and tuples stand in round brackets, perhaps behind a name, maps in braces and
lists in square brackets. -/

namespace Hashgraph.Ron

def isBlank (c : Char) : Bool := c = ' ' || c = '\t' || c = '\n' || c = '\x0d'

def behindComment : Nat → List Char → Option (List Char)
  | _, [] => none
  | depth, '*' :: '/' :: rest => if depth ≤ 1 then some rest else behindComment (depth - 1) rest
  | depth, '/' :: '*' :: rest => behindComment (depth + 1) rest
  | depth, _ :: rest => behindComment depth rest

def skipFiller : Nat → List Char → List Char
  | 0, text => text
  | fuel + 1, text =>
      match text.dropWhile isBlank with
      | '/' :: '/' :: rest => skipFiller fuel (rest.dropWhile fun c => c ≠ '\n')
      | '/' :: '*' :: rest =>
          match behindComment 1 rest with
          | some rest => skipFiller fuel rest
          | none => '/' :: '*' :: rest
      | text => text

def skip (text : List Char) : List Char := skipFiller (text.length + 1) text

/-! ### Texts -/

def hexValueOf? (digits : List Char) : Option Nat :=
  if digits.isEmpty then none
  else
    digits.foldl (fun value digit =>
      match value, Json.hexValue? digit with
      | some value, some digit => some (value * 16 + digit)
      | _, _ => none) (some 0)

/-- What an escape stands for, behind its backslash. A character in braces has up to six digits. -/
def escape? : List Char → Option (Char × List Char)
  | '"' :: rest => some ('"', rest)
  | '\'' :: rest => some ('\'', rest)
  | '\\' :: rest => some ('\\', rest)
  | 'n' :: rest => some ('\n', rest)
  | 'r' :: rest => some ('\x0d', rest)
  | 't' :: rest => some ('\t', rest)
  | 'x' :: a :: b :: rest => (hexValueOf? [a, b]).map fun value => (Char.ofNat value, rest)
  | 'u' :: '\x7b' :: rest =>
      let digits := rest.takeWhile (· ≠ '\x7d')
      match hexValueOf? digits, rest.drop digits.length with
      | some value, _ :: rest =>
          if digits.length ≤ 6 && value.isValidChar then some (Char.ofNat value, rest) else none
      | _, _ => none
  | _ => none

def readString : Nat → List Char → List Char → Option (String × List Char)
  | 0, _, _ => none
  | _ + 1, _, [] => none
  | fuel + 1, read, c :: rest =>
      if c = '"' then some (String.ofList read.reverse, rest)
      else if c = '\\' then
        match escape? rest with
        | some (c, rest) => readString fuel (c :: read) rest
        | none => none
      else readString fuel (c :: read) rest

def readRaw (marks : List Char) : List Char → List Char → Option (String × List Char)
  | _, [] => none
  | read, c :: rest =>
      if c = '"' && marks.isPrefixOf rest then some (String.ofList read.reverse, rest.drop marks.length)
      else readRaw marks (c :: read) rest

def readRawString (text : List Char) : Option (String × List Char) :=
  let marks := text.takeWhile (· = '#')
  match text.dropWhile (· = '#') with
  | '"' :: rest => readRaw marks [] rest
  | _ => none

def readChar (text : List Char) : Option (String × List Char) :=
  match text with
  | '\\' :: rest =>
      match escape? rest with
      | some (c, '\'' :: rest) => some (String.singleton c, rest)
      | _ => none
  | c :: '\'' :: rest => if c = '\'' then none else some (String.singleton c, rest)
  | _ => none

/-! ### Names -/

def isNameStart (c : Char) : Bool := c.isAlpha || c = '_'

def isNameChar (c : Char) : Bool := c.isAlphanum || c = '_'

def isRawNameChar (c : Char) : Bool := isNameChar c || c = '.' || c = '+' || c = '-'

/-- A name, or one with more kinds of characters behind a mark. The mark of a raw string begins no name. -/
def readName (text : List Char) : Option (List Char × List Char) :=
  match text with
  | [] => none
  | ['r'] => none
  | 'r' :: '"' :: _ => none
  | 'r' :: '#' :: rest =>
      let name := rest.takeWhile isRawNameChar
      if name.isEmpty then none else some (name, rest.drop name.length)
  | c :: _ => if isNameStart c then some (text.takeWhile isNameChar, text.dropWhile isNameChar) else none

/-! ### Numbers -/

def isWholeChar (c : Char) : Bool := (Json.hexValue? c).isSome || c = '_'

def isFloatChar (c : Char) : Bool :=
  NumberText.isDigit c || NumberText.isExponentMark c || c = '.' || c = '+' || c = '-'

def whole? (base : Nat) (text : List Char) : Option (Nat × List Char) :=
  let run := text.takeWhile isWholeChar
  let value := (run.filter (· ≠ '_')).foldl (fun value digit =>
    match value, (Json.hexValue? digit).filter (· < base) with
    | some value, some digit => some (value * base + digit)
    | _, _ => none) (some 0)
  if run.isEmpty || run.head? = some '_' then none else value.map fun value => (value, text.drop run.length)

def unsigned? (text : List Char) : Option (Nat × List Char) :=
  match text with
  | '0' :: 'x' :: digits => whole? 16 digits
  | '0' :: 'o' :: digits => whole? 8 digits
  | '0' :: 'b' :: digits => whole? 2 digits
  | digits => whole? 10 digits

def integer? (text : List Char) : Option (Bool × Int × List Char) :=
  match text with
  | '-' :: rest => (unsigned? rest).bind fun (value, rest) =>
      if value ≤ Nat.pow 2 127 then some (true, -(value : Int), rest) else none
  | '+' :: rest => (unsigned? rest).bind fun (value, rest) =>
      if value < Nat.pow 2 127 then some (true, value, rest) else none
  | text => (unsigned? text).bind fun (value, rest) =>
      if value < Nat.pow 2 128 then some (false, value, rest) else none

/-- Whole numbers of more than 64 bits are refused. One without a sign that is too large for a signed number is
a double. -/
def ofInteger? (signed : Bool) (value : Int) : Option Document :=
  if -(Nat.pow 2 63) ≤ value && value < Nat.pow 2 63 then some (.int value)
  else if !signed && value < UInt64.size then some (.float (floatOfDecimal false value.toNat 0))
  else none

def float? (text : List Char) : Option (Document × List Char) :=
  let (negative, digits) := NumberText.splitSign (text.takeWhile isFloatChar)
  (NumberText.decimal? negative digits).map fun value => (.float value, text.dropWhile isFloatChar)

def afterSign (text : List Char) : List Char := (NumberText.splitSign text).2

/-- What is longer as a double than as a whole number is a double, and so is what is no whole number. -/
def readNumber (text : List Char) : Option (Document × List Char) :=
  let digits := afterSign text
  if (digits.takeWhile isWholeChar).length < (digits.takeWhile isFloatChar).length then float? text
  else
    match integer? text with
    | some (signed, value, rest) => (ofInteger? signed value).map fun number => (number, rest)
    | none => float? text

def startsNumber (c : Char) : Bool := NumberText.isDigit c || c = '+' || c = '-' || c = '.'

def readSigned (text : List Char) : Option (Document × List Char) :=
  match text with
  | '-' :: 'i' :: 'n' :: 'f' :: rest =>
      if rest.head?.any isNameChar then readNumber text else some (.float (-(1.0 / 0.0)), rest)
  | '.' :: _ => float? text
  | text => if text.head?.any startsNumber then readNumber text else none

/-! ### Values -/

def isRecord (text : List Char) : Bool :=
  match readName (skip text) with
  | some (_, rest) => (skip rest).head? = some ':'
  | none => false

mutual

def readValue (implicitSome : Bool) : Nat → List Char → Option (Document × List Char)
  | 0, _ => none
  | fuel + 1, text =>
      match skip text with
      | '(' :: ')' :: rest => some (.null, rest)
      | '(' :: rest => readRound implicitSome fuel rest
      | '[' :: rest => readItems implicitSome fuel ']' [] rest
      | '\x7b' :: rest => readEntries implicitSome fuel false [] rest
      | '"' :: rest => (readString (rest.length + 1) [] rest).map fun (value, rest) => (.text value, rest)
      | '\'' :: rest => (readChar rest).map fun (value, rest) => (.text value, rest)
      | text =>
          match readName text with
          | some (_, rest) => readNamed implicitSome fuel text rest
          | none =>
              match text with
              | 'r' :: rest => (readRawString rest).map fun (value, rest) => (.text value, rest)
              | text => readSigned text

def readNamed (implicitSome : Bool) : Nat → List Char → List Char → Option (Document × List Char)
  | 0, _, _ => none
  | fuel + 1, text, rest =>
      match String.ofList (text.take (text.length - rest.length)) with
      | "true" => some (.bool true, rest)
      | "false" => some (.bool false, rest)
      | "None" => some (.null, rest)
      | "inf" => some (.float (1.0 / 0.0), rest)
      | "NaN" => some (.float (0.0 / 0.0), rest)
      | "Some" =>
          match skip rest with
          | '(' :: rest =>
              match readValue implicitSome fuel rest with
              | some (value, rest) =>
                  match skip rest with
                  | ')' :: rest => some (value, rest)
                  | _ => none
              | none => none
          | rest => if implicitSome then readValue implicitSome fuel rest else none
      | _ =>
          match skip rest with
          | '(' :: rest => readRound implicitSome fuel rest
          | _ => some (.null, rest)

def readRound (implicitSome : Bool) : Nat → List Char → Option (Document × List Char)
  | 0, _ => none
  | fuel + 1, text =>
      if isRecord text then readEntries implicitSome fuel true [] text else readItems implicitSome fuel ')' [] text

def readItems (implicitSome : Bool) : Nat → Char → List Document → List Char → Option (Document × List Char)
  | 0, _, _, _ => none
  | fuel + 1, last, items, text =>
      match skip text with
      | [] => none
      | first :: text =>
          if first = last then some (.list items.reverse, text)
          else
            match readValue implicitSome fuel (first :: text) with
            | none => none
            | some (item, rest) =>
                match skip rest with
                | ',' :: rest => readItems implicitSome fuel last (item :: items) rest
                | c :: rest => if c = last then some (.list (item :: items).reverse, rest) else none
                | [] => none

/-- Entries of a record, whose keys are names, or of a map, whose keys are texts. An option that holds a text
is no key. -/
def readEntries (implicitSome : Bool) :
    Nat → Bool → List (String × Document) → List Char → Option (Document × List Char)
  | 0, _, _, _ => none
  | fuel + 1, named, entries, text =>
      let last := if named then ')' else '\x7d'
      match skip text with
      | [] => none
      | first :: text =>
          if first = last then some (.table entries, text)
          else
            let key : Option (String × List Char) :=
              if named then (readName (first :: text)).map fun (name, rest) => (String.ofList name, rest)
              else if (readName (first :: text)).isSome then none
              else
                match readValue implicitSome fuel (first :: text) with
                | some (.text key, rest) => some (key, rest)
                | _ => none
            match key with
            | none => none
            | some (key, rest) =>
                match skip rest with
                | ':' :: rest =>
                    match readValue implicitSome fuel rest with
                    | none => none
                    | some (value, rest) =>
                        let entries := Json.putEntry key value entries
                        match skip rest with
                        | ',' :: rest => readEntries implicitSome fuel named entries rest
                        | c :: rest => if c = last then some (.table entries, rest) else none
                        | [] => none
                | _ => none

end

/-! ### Extensions -/

def skipWord? (word : String) (text : List Char) : Option (List Char) :=
  if word.toList.isPrefixOf text then some (skip (text.drop word.length)) else none

def skipWords? (words : List String) (text : List Char) : Option (List Char) :=
  words.foldlM (fun text word => skipWord? word text) text

def readExtensionNames : Nat → Bool → List Char → Option (Bool × List Char)
  | 0, _, _ => none
  | fuel + 1, implicitSome, text =>
      match readName text with
      | none => none
      | some (name, rest) =>
          let name := String.ofList name
          if name ∉ ["unwrap_newtypes", "implicit_some", "unwrap_variant_newtypes"] then none
          else
            let implicitSome := implicitSome || name = "implicit_some"
            match skip rest with
            | ',' :: rest =>
                let rest := skip rest
                if rest.head?.any isNameChar then readExtensionNames fuel implicitSome rest
                else some (implicitSome, rest)
            | rest => some (implicitSome, rest)

def readExtensions : Nat → Bool → List Char → Option (Bool × List Char)
  | 0, _, _ => none
  | fuel + 1, implicitSome, text =>
      match skip text with
      | '#' :: rest =>
          (skipWords? ["#", "!", "[", "enable", "("] ('#' :: rest)).bind fun rest =>
            (readExtensionNames (rest.length + 1) implicitSome rest).bind fun (implicitSome, rest) =>
              (skipWords? [")", "]"] rest).bind (readExtensions fuel implicitSome)
      | text => some (implicitSome, text)

def read? (text : String) : Option Document :=
  let chars := text.toList
  (readExtensions (chars.length + 1) false chars).bind fun (implicitSome, rest) =>
    match readValue implicitSome (3 * rest.length + 3) rest with
    | some (value, rest) => if (skip rest).isEmpty then some value else none
    | none => none

end Hashgraph.Ron
