import Hashgraph.Decimal.Shortest

/-! Decimal texts of doubles, and doubles read from decimals. -/

namespace Hashgraph

/-- How a format writes a double: between which powers of ten without an exponent, whether a whole number
keeps a zero behind the point, and what stands for the values without digits. -/
structure FloatStyle where
  positionalFrom : Option Int
  positionalBelow : Option Int
  keepsPoint : Bool
  notANumber : String
  positiveInfinity : String
  negativeInfinity : String

namespace FloatStyle

def plain : FloatStyle := ⟨none, none, false, "NaN", "inf", "-inf"⟩

def pointed : FloatStyle := ⟨none, none, true, "nan", "inf", "-inf"⟩

def scientific : FloatStyle := ⟨some (-5), some 16, true, "null", "null", "null"⟩

end FloatStyle

def digitText (number : Nat) : String := Nat.repr number

namespace Decimal

def leading (decimal : Decimal) : Int := decimal.exponent + ((digitText decimal.digits).length : Int) - 1

def zeros (count : Nat) : String := String.ofList (List.replicate count '0')

def withPoint (digits places : Nat) : String :=
  let text := digitText digits
  let filled := zeros (places + 1 - text.length) ++ text
  let whole := filled.length - places
  String.ofList (filled.toList.take whole) ++ "." ++ String.ofList (filled.toList.drop whole)

def positional (keepsPoint : Bool) (decimal : Decimal) : String :=
  match decimal.exponent with
  | .ofNat power =>
      let whole := digitText decimal.digits ++ (if decimal.digits = 0 then "" else zeros power)
      if keepsPoint then whole ++ ".0" else whole
  | .negSucc power => withPoint decimal.digits (power + 1)

def withExponent (decimal : Decimal) : String :=
  let text := (digitText decimal.digits).toList
  let mantissa :=
    match text with
    | [] => ""
    | [digit] => String.ofList [digit]
    | digit :: rest => String.ofList (digit :: '.' :: rest)
  let exponent := decimal.leading
  mantissa ++ "e" ++ (if exponent < 0 then "-" else "") ++ digitText exponent.natAbs

def write (style : FloatStyle) (decimal : Decimal) : String :=
  let low := style.positionalFrom.all fun bound => bound ≤ decimal.leading
  let high := style.positionalBelow.all fun bound => decimal.leading < bound
  if decimal.digits = 0 ∨ (low && high) then decimal.positional style.keepsPoint else decimal.withExponent

end Decimal

def FloatStyle.write (style : FloatStyle) (value : Float) : String :=
  match BinaryFloat.ofFloat? value with
  | some binary => (if binary.negative then "-" else "") ++ (Decimal.shortest binary).write style
  | none =>
      if value.isNaN then style.notANumber
      else if BinaryFloat.isNegative value then style.negativeInfinity
      else style.positiveInfinity

def fixedText (places : Nat) (value : Float) : String :=
  match BinaryFloat.ofFloat? value with
  | some binary =>
      let (numerator, denominator) := binary.ratio
      (if binary.negative then "-" else "") ++
        Decimal.withPoint (roundedQuotient (numerator * Nat.pow 10 places) denominator) places
  | none => FloatStyle.plain.write value

/-- The double nearest to `digits · 10 ^ exponent`; outside the range of doubles it is infinite or zero. -/
def floatOfDecimal (negative : Bool) (digits : Nat) (exponent : Int) : Float :=
  let magnitude : Int := exponent + ((digitText digits).length : Int)
  let value : Float :=
    if digits = 0 ∨ magnitude < -400 then 0.0
    else if 400 < magnitude then 1.0 / 0.0
    else
      match exponent with
      | .ofNat power => Float.ofScientific (digits * Nat.pow 10 power) false 0
      | .negSucc power => Float.ofScientific digits true (power + 1)
  if negative then -value else value

def padLeft (width : Nat) (text : String) : String :=
  String.ofList (List.replicate (width - text.length) ' ') ++ text

end Hashgraph
