import Hashgraph.Document
import Hashgraph.Document.Number

/-! Values of TOML that are written as one word: truth values, numbers, dates and times of day. -/

namespace Hashgraph.Toml

def groupedDigits? (isDigit : Char → Bool) : List Char → Option (List Char)
  | [] => none
  | [c] => if isDigit c then some [c] else none
  | c :: '_' :: rest => if isDigit c then (groupedDigits? isDigit rest).map (c :: ·) else none
  | c :: rest => if isDigit c then (groupedDigits? isDigit rest).map (c :: ·) else none

def decimalDigits? (text : List Char) : Option (List Char) := groupedDigits? NumberText.isDigit text

def wholeDigits? (text : List Char) : Option (List Char) :=
  match text with
  | ['0'] => some ['0']
  | '0' :: _ => none
  | text => decimalDigits? text

def digitValue (c : Char) : Nat :=
  if NumberText.isDigit c then c.toNat - 48 else (c.toLower.toNat - 97) + 10

def baseValue? (base : Nat) (text : List Char) : Option Document :=
  let isDigit (c : Char) : Bool := (NumberText.isDigit c || ('a' ≤ c.toLower && c.toLower ≤ 'f')) && digitValue c < base
  (groupedDigits? isDigit text).bind fun digits =>
    let value := digits.foldl (fun value digit => value * base + digitValue digit) 0
    if value < Nat.pow 2 63 then some (.int value) else none

def integer? (text : List Char) : Option Document :=
  match text with
  | '0' :: 'x' :: rest => baseValue? 16 rest
  | '0' :: 'o' :: rest => baseValue? 8 rest
  | '0' :: 'b' :: rest => baseValue? 2 rest
  | text =>
      let (negative, digits) := NumberText.splitSign text
      (wholeDigits? digits).bind fun digits =>
        (NumberText.int64? (String.ofList (if negative then '-' :: digits else digits))).map .int

def mantissa? (text : List Char) : Option (List Char × Nat) :=
  let whole := wholeDigits? (text.takeWhile fun c => c ≠ '.')
  match whole, text.dropWhile fun c => c ≠ '.' with
  | some whole, [] => some (whole, 0)
  | some whole, _ :: fraction =>
      (decimalDigits? fraction).map fun fraction => (whole ++ fraction, fraction.length)
  | none, _ => none

def exponent? (text : List Char) : Option Int :=
  let (negative, digits) := NumberText.splitSign text
  (decimalDigits? digits).map fun digits =>
    let value : Int := NumberText.digitsValue digits
    if negative then -value else value

/-- A number with a point or an exponent. One that is too large for a double is refused, and one that lies
below all of them is minus infinity. -/
def float? (text : List Char) : Option Document :=
  let (negative, rest) := NumberText.splitSign text
  if rest = ['i', 'n', 'f'] then some (.float (if negative then -(1.0 / 0.0) else 1.0 / 0.0))
  else if rest = ['n', 'a', 'n'] then some (.float (0.0 / 0.0))
  else
    let front := rest.takeWhile fun c => !NumberText.isExponentMark c
    let exponent :=
      match rest.dropWhile fun c => !NumberText.isExponentMark c with
      | [] => if front.contains '.' then some 0 else none
      | _ :: digits => exponent? digits
    match mantissa? front, exponent with
    | some (digits, places), some exponent =>
        let value := floatOfDecimal negative (NumberText.digitsValue digits) (exponent - places)
        if value.isInf && !negative then none else some (.float value)
    | _, _ => none

/-! ### Dates and times -/

def twoDigits? (low high : Nat) : List Char → Option (List Char × List Char)
  | a :: b :: rest =>
      if NumberText.isDigit a && NumberText.isDigit b then
        let value := NumberText.digitsValue [a, b]
        if low ≤ value && value ≤ high then some ([a, b], rest) else none
      else none
  | _ => none

def expect? (c : Char) : List Char → Option (List Char)
  | first :: rest => if first = c then some rest else none
  | [] => none

def daysIn (year month : Nat) : Nat :=
  if month = 2 then if (year % 4 = 0 ∧ year % 100 ≠ 0) ∨ year % 400 = 0 then 29 else 28
  else if month = 4 ∨ month = 6 ∨ month = 9 ∨ month = 11 then 30
  else 31

def date? (text : List Char) : Option (List Char × List Char) := do
  let year := text.take 4
  if year.length ≠ 4 || !year.all NumberText.isDigit then none
  else
    let rest ← expect? '-' (text.drop 4)
    let (month, rest) ← twoDigits? 1 12 rest
    let rest ← expect? '-' rest
    let (day, rest) ← twoDigits? 1 (daysIn (NumberText.digitsValue year) (NumberText.digitsValue month)) rest
    return (year ++ '-' :: month ++ '-' :: day, rest)

def dropTrailingZeros (digits : List Char) : List Char := (digits.reverse.dropWhile (· = '0')).reverse

def fraction? (text : List Char) : Option (List Char × List Char) :=
  match text with
  | '.' :: rest =>
      let digits := rest.takeWhile NumberText.isDigit
      if digits.isEmpty then none
      else
        let kept := dropTrailingZeros (digits.take 9)
        some (if kept.isEmpty then [] else '.' :: kept, rest.dropWhile NumberText.isDigit)
  | rest => some ([], rest)

def time? (text : List Char) : Option (List Char × List Char) := do
  let (hour, rest) ← twoDigits? 0 23 text
  let rest ← expect? ':' rest
  let (minute, rest) ← twoDigits? 0 59 rest
  let rest ← expect? ':' rest
  let (second, rest) ← twoDigits? 0 60 rest
  let (fraction, rest) ← fraction? rest
  return (hour ++ ':' :: minute ++ ':' :: second ++ fraction, rest)

def offset? (text : List Char) : Option (List Char) :=
  match text with
  | [] => some []
  | ['Z'] => some ['Z']
  | ['z'] => some ['Z']
  | sign :: rest =>
      if sign = '+' || sign = '-' then do
        let (hour, rest) ← twoDigits? 0 23 rest
        let rest ← expect? ':' rest
        let (minute, rest) ← twoDigits? 0 59 rest
        if rest.isEmpty then some (sign :: hour ++ ':' :: minute) else none
      else none

def isTimeMark (c : Char) : Bool := c = 'T' || c = 't' || c = ' '

def moment? (text : List Char) : Option Document :=
  match date? text with
  | some (date, []) => some (.moment (String.ofList date))
  | some (date, mark :: rest) =>
      if isTimeMark mark then
        match time? rest with
        | some (time, rest) =>
            (offset? rest).map fun offset => .moment (String.ofList (date ++ 'T' :: time ++ offset))
        | none => none
      else none
  | none =>
      match time? text with
      | some (time, []) => some (.moment (String.ofList time))
      | _ => none

def scalar? (text : List Char) : Option Document :=
  if text = ['t', 'r', 'u', 'e'] then some (.bool true)
  else if text = ['f', 'a', 'l', 's', 'e'] then some (.bool false)
  else
    match moment? text with
    | some moment => some moment
    | none =>
        match float? text, integer? text with
        | _, some number => some number
        | some number, none => some number
        | none, none => none

def isScalarChar (c : Char) : Bool := c.isAlphanum || c = '+' || c = '-' || c = '_' || c = '.' || c = ':'

/-- Reads a scalar up to the first character that cannot belong to one. A blank may stand between a date
and a time. -/
def readScalar (text : List Char) : Option (Document × List Char) :=
  let word := text.takeWhile isScalarChar
  let rest := text.dropWhile isScalarChar
  match (date? word).map Prod.snd, rest with
  | some [], ' ' :: next :: more =>
      if NumberText.isDigit next then
        let time := (next :: more).takeWhile isScalarChar
        (moment? (word ++ ' ' :: time)).map fun moment => (moment, (next :: more).dropWhile isScalarChar)
      else (scalar? word).map fun value => (value, rest)
  | _, _ => (scalar? word).map fun value => (value, rest)

end Hashgraph.Toml
