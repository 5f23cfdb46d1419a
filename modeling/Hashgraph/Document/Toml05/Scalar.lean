import Hashgraph.Document.Toml.Key
import Hashgraph.Document.Toml.Scalar

/-! Values of TOML 0.5 that are written without quotes. They are put together from words of letters, digits,
hyphens and underscores, with points, colons and plus signs between them. -/

namespace Hashgraph.Toml05

open Toml (isBare)

def word (text : List Char) : List Char := text.takeWhile isBare

def readWord (text : List Char) : Option (List Char × List Char) :=
  let first := word text
  if first.isEmpty then none else some (first, text.drop first.length)

/-! ### Dates and times -/

def date? (text : List Char) : Option (List Char × List Char) := do
  let year := text.take 4
  if year.length ≠ 4 || !year.all NumberText.isDigit then none
  else
    let rest ← Toml.expect? '-' (text.drop 4)
    let (month, rest) ← Toml.twoDigits? 1 12 rest
    let rest ← Toml.expect? '-' rest
    let (day, rest) ← Toml.twoDigits? 1 31 rest
    return (year ++ '-' :: month ++ '-' :: day, rest)

def time? (text : List Char) : Option (List Char × List Char) := do
  let (hour, rest) ← Toml.twoDigits? 0 24 text
  let rest ← Toml.expect? ':' rest
  let (minute, rest) ← Toml.twoDigits? 0 59 rest
  let rest ← Toml.expect? ':' rest
  let (second, rest) ← Toml.twoDigits? 0 59 rest
  let (fraction, rest) ← Toml.fraction? rest
  return (hour ++ ':' :: minute ++ ':' :: second ++ fraction, rest)

def offset? (text : List Char) : Option (List Char) :=
  match text with
  | [] => some []
  | ['Z'] => some ['Z']
  | ['z'] => some ['Z']
  | sign :: rest =>
      if sign = '+' || sign = '-' then do
        let (hour, rest) ← Toml.twoDigits? 0 99 rest
        let rest ← Toml.expect? ':' rest
        let (minute, rest) ← Toml.twoDigits? 0 99 rest
        let sign := if hour = ['0', '0'] then '+' else sign
        if rest.isEmpty then some (sign :: hour ++ ':' :: minute) else none
      else none

/-- The canonical text of a date, a time of day, or both with a mark between them and perhaps an offset. -/
def moment? (text : List Char) : Option (List Char) :=
  if text[2]? = some ':' then
    match time? text with
    | some (time, []) => some time
    | _ => none
  else
    match date? text with
    | some (date, []) => some date
    | some (date, mark :: rest) =>
        if Toml.isTimeMark mark then
          match time? rest with
          | some (time, rest) => (offset? rest).map fun offset => date ++ 'T' :: time ++ offset
          | none => none
        else none
    | none => none

def spacedWord (text : List Char) : List Char :=
  match text with
  | ' ' :: rest => if (word rest).isEmpty then [] else ' ' :: word rest
  | _ => []

def markedWord? (mark : Char) (text : List Char) : Option (List Char) :=
  match text with
  | c :: rest => if c = mark then (readWord rest).map fun (word, _) => c :: word else some []
  | [] => some []

/-- How much of a text, up to the seconds of which `front` has been read, belongs to a time of day. -/
def timeTail? (front text : List Char) : Option (List Char) := do
  let (minute, rest) ← readWord text
  let rest ← Toml.expect? ':' rest
  let (second, rest) ← readWord rest
  let fraction ← markedWord? '.' rest
  let rest := rest.drop fraction.length
  let hours ← markedWord? '+' rest
  let rest := rest.drop hours.length
  let minutes ← markedWord? ':' rest
  return front ++ minute ++ ':' :: second ++ fraction ++ hours ++ minutes

def momentExtent? (front : List Char) (hasColon : Bool) (rest : List Char) : Option (List Char) :=
  let hour := spacedWord rest
  let front := front ++ hour
  match hasColon, rest.drop hour.length with
  | true, rest => timeTail? front rest
  | false, ':' :: rest => timeTail? (front ++ [':']) rest
  | false, _ => some front

/-! ### Numbers -/

def digits? (leadingZeros : Bool) (text : List Char) : Option (List Char × List Char) :=
  let run := text.takeWhile fun c => NumberText.isDigit c || c = '_'
  match Toml.decimalDigits? run with
  | some ('0' :: c :: rest) => if leadingZeros then some ('0' :: c :: rest, text.drop run.length) else none
  | some digits => some (digits, text.drop run.length)
  | none => none

/-- The exponent behind its mark, which may end a word that a plus sign separates from the digits. -/
def exponent? (inWord rest : List Char) : Option (Int × List Char) :=
  match inWord with
  | [] =>
      let rest :=
        match rest with
        | '+' :: rest => rest
        | rest => rest
      match readWord rest with
      | some (digits, rest) =>
          match digits? true digits with
          | some (digits, []) => some (NumberText.digitsValue digits, rest)
          | _ => none
      | none => none
  | inWord =>
      let (negative, digits) := NumberText.splitSign inWord
      match digits? true digits with
      | some (digits, []) =>
          let value : Int := NumberText.digitsValue digits
          some (if negative then -value else value, rest)
      | _ => none

/-- A double from its parts, where `tail` is what the last word has behind its digits. It must be finite. -/
def float? (negative : Bool) (whole fraction tail rest : List Char) : Option (Document × List Char) :=
  let exponent :=
    match tail with
    | [] => some (0, rest)
    | mark :: inWord => if NumberText.isExponentMark mark then exponent? inWord rest else none
  match exponent with
  | some (exponent, rest) =>
      let value := floatOfDecimal negative (NumberText.digitsValue (whole ++ fraction)) (exponent - fraction.length)
      if value.isFinite then some (.float value, rest) else none
  | none => none

def splitMinus (text : List Char) : Bool × List Char :=
  match text with
  | '-' :: rest => (true, rest)
  | rest => (false, rest)

def infinity (negative : Bool) : Document := .float (if negative then -(1.0 / 0.0) else 1.0 / 0.0)

def number? (first rest : List Char) : Option (Document × List Char) :=
  let (negative, digits) := splitMinus first
  let whole? := digits? false digits
  match first with
  | '0' :: 'x' :: digits => (Toml.baseValue? 16 digits).map fun value => (value, rest)
  | '0' :: 'o' :: digits => (Toml.baseValue? 8 digits).map fun value => (value, rest)
  | '0' :: 'b' :: digits => (Toml.baseValue? 2 digits).map fun value => (value, rest)
  | _ =>
      if first.any NumberText.isExponentMark then
        whole?.bind fun (whole, tail) => float? negative whole [] tail rest
      else
        match rest with
        | '.' :: rest =>
            match whole?, readWord rest with
            | some (whole, []), some (behind, rest) =>
                (digits? true behind).bind fun (fraction, tail) => float? negative whole fraction tail rest
            | _, _ => none
        | _ =>
            if digits = ['i', 'n', 'f'] then some (infinity negative, rest)
            else if digits = ['n', 'a', 'n'] then some (.float (0.0 / 0.0), rest)
            else
              match whole? with
              | some (whole, []) =>
                  let text := String.ofList (if negative then '-' :: whole else whole)
                  (NumberText.int64? text).map fun value => (.int value, rest)
              | _ => none

def hasNegativeExponent : List Char → Bool
  | mark :: '-' :: rest => NumberText.isExponentMark mark || hasNegativeExponent ('-' :: rest)
  | _ :: rest => hasNegativeExponent rest
  | [] => false

/-- Whether a word begins a date: it has a mark for a time, or a hyphen inside that is no exponent's sign. -/
def beginsDate (first : List Char) : Bool :=
  first.any (fun c => c = 'T' || c = 't') || (first.tail.contains '-' && !hasNegativeExponent first)

end Hashgraph.Toml05
