/-! Finite doubles as exact rationals, and quotients rounded to the nearest integer. -/

namespace Hashgraph

structure BinaryFloat where
  negative : Bool
  mantissa : Nat
  exponent : Int
deriving DecidableEq

namespace BinaryFloat

def fractionField (bits : UInt64) : Nat := bits.toNat % Nat.pow 2 52

def exponentField (bits : UInt64) : Nat := bits.toNat / Nat.pow 2 52 % 2048

def isNegative (value : Float) : Bool := value.toBits.toNat / Nat.pow 2 63 = 1

def ofFloat? (value : Float) : Option BinaryFloat :=
  let bits := value.toBits
  let field := exponentField bits
  if field = 2047 then none
  else if field = 0 then some ⟨isNegative value, fractionField bits, -1074⟩
  else some ⟨isNegative value, fractionField bits + Nat.pow 2 52, (field : Int) - 1075⟩

def ratio (binary : BinaryFloat) : Nat × Nat :=
  match binary.exponent with
  | .ofNat shift => (binary.mantissa * Nat.pow 2 shift, 1)
  | .negSucc shift => (binary.mantissa, Nat.pow 2 (shift + 1))

end BinaryFloat

def roundedQuotient (numerator denominator : Nat) : Nat :=
  let whole := numerator / denominator
  let twice := 2 * (numerator % denominator)
  if twice < denominator then whole
  else if denominator < twice then whole + 1
  else whole + whole % 2

end Hashgraph
