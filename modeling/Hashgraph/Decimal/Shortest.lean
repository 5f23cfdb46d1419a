import Hashgraph.Decimal.Binary

/-! The shortest decimal that reads back as a given double: of all decimals that round to it those with
the fewest digits, and of these the nearest. -/

namespace Hashgraph

structure Decimal where
  digits : Nat
  exponent : Int
deriving DecidableEq

namespace Decimal

/-- A positive rational, with the bounds of the rationals that round to the same double. All three are
numerators over one denominator. -/
structure Neighbourhood where
  value : Nat
  low : Nat
  high : Nat
  denominator : Nat
  closed : Bool

def Neighbourhood.ofBinary (binary : BinaryFloat) : Neighbourhood :=
  let narrow := binary.mantissa = Nat.pow 2 52 ∧ binary.exponent ≠ -1074
  let value := 4 * binary.mantissa
  let low := if narrow then value - 1 else value - 2
  let high := value + 2
  let closed := binary.mantissa % 2 = 0
  match binary.exponent with
  | .ofNat shift => ⟨value * Nat.pow 2 shift, low * Nat.pow 2 shift, high * Nat.pow 2 shift, 4, closed⟩
  | .negSucc shift => ⟨value, low, high, 4 * Nat.pow 2 (shift + 1), closed⟩

def Neighbourhood.inUnits (near : Neighbourhood) (exponent : Int) : Neighbourhood :=
  match exponent with
  | .ofNat power => { near with denominator := near.denominator * Nat.pow 10 power }
  | .negSucc power =>
      let scale := Nat.pow 10 (power + 1)
      { near with value := near.value * scale, low := near.low * scale, high := near.high * scale }

def Neighbourhood.holds (near : Neighbourhood) (units : Nat) : Bool :=
  let point := units * near.denominator
  if near.closed then near.low ≤ point && point ≤ near.high else near.low < point && point < near.high

def Neighbourhood.nearest? (near : Neighbourhood) : Option Nat :=
  let below := near.value / near.denominator
  match near.holds below, near.holds (below + 1) with
  | true, true => some (roundedQuotient near.value near.denominator)
  | true, false => some below
  | false, true => some (below + 1)
  | false, false => none

def magnitudeFrom : Nat → Neighbourhood → Int → Int
  | 0, _, guess => guess
  | fuel + 1, near, guess =>
      let larger := near.inUnits (guess + 1)
      if larger.denominator ≤ larger.value then magnitudeFrom fuel near (guess + 1) else guess

def Neighbourhood.magnitude (near : Neighbourhood) : Int :=
  let bits : Int := (near.value.log2 : Int) - near.denominator.log2
  magnitudeFrom 4 near ((bits * 30103) / 100000 - 2)

def search : Nat → Neighbourhood → Int → Option Decimal
  | 0, _, _ => none
  | fuel + 1, near, exponent =>
      match (near.inUnits exponent).nearest? with
      | some digits => some ⟨digits, exponent⟩
      | none => search fuel near (exponent - 1)

def stripZeros : Nat → Decimal → Decimal
  | 0, decimal => decimal
  | fuel + 1, decimal =>
      if decimal.digits ≠ 0 ∧ decimal.digits % 10 = 0 then
        stripZeros fuel ⟨decimal.digits / 10, decimal.exponent + 1⟩
      else decimal

def shortest (binary : BinaryFloat) : Decimal :=
  if binary.mantissa = 0 then ⟨0, 0⟩
  else
    let near := Neighbourhood.ofBinary binary
    stripZeros 20 ((search 20 near near.magnitude).getD ⟨0, 0⟩)

end Decimal

end Hashgraph
