import Hashgraph.Decimal.Text

/-! Numbers written as text on their own, such as the value of an environment variable. -/

namespace Hashgraph.NumberText

def isDigit (c : Char) : Bool := '0' ≤ c && c ≤ '9'

def digitsValue (digits : List Char) : Nat := digits.foldl (fun value digit => value * 10 + (digit.toNat - 48)) 0

def splitSign : List Char → Bool × List Char
  | '-' :: rest => (true, rest)
  | '+' :: rest => (false, rest)
  | rest => (false, rest)

def nonEmptyDigits? (text : List Char) : Option Nat :=
  if !text.isEmpty && text.all isDigit then some (digitsValue text) else none

def int64? (text : String) : Option Int :=
  let (negative, digits) := splitSign text.toList
  (nonEmptyDigits? digits).bind fun value =>
    if negative then if value ≤ Nat.pow 2 63 then some (-(value : Int)) else none
    else if value < Nat.pow 2 63 then some value
    else none

def word64? (text : String) : Option UInt64 :=
  let digits :=
    match text.toList with
    | '+' :: rest => rest
    | rest => rest
  (nonEmptyDigits? digits).bind fun value => if value < UInt64.size then some value.toUInt64 else none

def mantissa? (text : List Char) : Option (Nat × Nat) :=
  let whole := text.takeWhile isDigit
  match text.dropWhile isDigit with
  | [] => if whole.isEmpty then none else some (digitsValue whole, 0)
  | '.' :: fraction =>
      if fraction.all isDigit && !(whole.isEmpty && fraction.isEmpty) then
        some (digitsValue (whole ++ fraction), fraction.length)
      else none
  | _ => none

def exponent? (text : List Char) : Option Int :=
  let (negative, digits) := splitSign text
  (nonEmptyDigits? digits).map fun value => if negative then -(value : Int) else value

def isExponentMark (c : Char) : Bool := c = 'e' || c = 'E'

def decimal? (negative : Bool) (text : List Char) : Option Float :=
  let front := text.takeWhile fun c => !isExponentMark c
  let exponent :=
    match text.dropWhile fun c => !isExponentMark c with
    | [] => some 0
    | _ :: rest => exponent? rest
  match mantissa? front, exponent with
  | some (digits, places), some exponent => some (floatOfDecimal negative digits (exponent - places))
  | _, _ => none

def lowerAscii (text : String) : String := text.map Char.toLower

/-- A double: digits with an optional point and exponent, or a word for infinity or for no number. -/
def float? (text : String) : Option Float :=
  let (negative, rest) := splitSign text.toList
  match lowerAscii (String.ofList rest) with
  | "inf" | "infinity" => some (if negative then -(1.0 / 0.0) else 1.0 / 0.0)
  | "nan" => some (0.0 / 0.0)
  | _ => decimal? negative rest

end Hashgraph.NumberText
