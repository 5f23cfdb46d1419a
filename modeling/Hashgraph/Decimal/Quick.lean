import Hashgraph.Decimal.Text

/-! Doubles from decimals by arithmetic of doubles. As many digits count as a 64-bit word can hold, and the
power of ten is multiplied or divided at the end. Each step rounds, so that the last digit may be off. -/

namespace Hashgraph.Decimal

def digitOf (c : Char) : Nat := c.toNat - 48

def appendDigits : Nat → Nat → List Char → Nat × Nat
  | word, count, [] => (word, count)
  | word, count, digit :: rest =>
      let next := word * 10 + digitOf digit
      if next < UInt64.size then appendDigits next (count + 1) rest else (word, count)

def maxPower : Nat := 308

def scaled? : Nat → Float → Int → Option Float
  | 0, value, _ => some value
  | steps + 1, value, exponent =>
      if exponent.natAbs ≤ maxPower then
        let power := floatOfDecimal false 1 exponent.natAbs
        if exponent < 0 then some (value / power) else some (value * power) |>.filter Float.isFinite
      else if value == 0.0 then some value
      else if exponent < 0 then scaled? steps (value / floatOfDecimal false 1 maxPower) (exponent + maxPower)
      else none

def quickFloat? (negative : Bool) (whole fraction : List Char) (exponent : Int) : Option Float :=
  let (word, taken) := appendDigits 0 0 whole
  let (word, places) := appendDigits word 0 fraction
  let shift : Int := (whole.length : Int) - taken - places
  (scaled? 4 (floatOfDecimal false word 0) (exponent + shift)).map fun value => if negative then -value else value

end Hashgraph.Decimal
