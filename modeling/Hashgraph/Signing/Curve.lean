import Hashgraph.Bytes

/-! The twisted Edwards curve −x² + y² = 1 + d·x²·y² over the integers modulo 2²⁵⁵ − 19, with points in
extended coordinates and their 32-byte encoding. -/

namespace Hashgraph.Curve

def modulus : Nat := Nat.pow 2 255 - 19

def order : Nat := Nat.pow 2 252 + 27742317777372353535851937790883648493

def add (a b : Nat) : Nat := (a + b) % modulus

def sub (a b : Nat) : Nat := (a + (modulus - b % modulus)) % modulus

def mul (a b : Nat) : Nat := a * b % modulus

def powDigits : Nat → Nat → Nat → Nat → Nat
  | 0, _, _, result => result
  | digits + 1, base, exponent, result =>
      if exponent = 0 then result
      else powDigits digits (mul base base) (exponent / 2) (if exponent % 2 = 1 then mul result base else result)

def pow (base exponent : Nat) : Nat := powDigits (exponent.log2 + 1) (base % modulus) exponent 1

def inverse (a : Nat) : Nat := pow a (modulus - 2)

def coefficient : Nat := 37095705934669439343138083508754565189542113879843219016388785533085940283555

def rootOfMinusOne : Nat := 19681161376707505956807079304988542015446066515923890162744021073123829784752

structure Point where
  x : Nat
  y : Nat
  z : Nat
  t : Nat

def identity : Point := ⟨0, 1, 1, 0⟩

def base : Point :=
  let x := 15112221349535400772501151409588531511454012693041857206046113283949847762202
  let y := 46316835694926478169428394003475163141307993866256225615783033603165251855960
  ⟨x, y, 1, mul x y⟩

def Point.plus (p q : Point) : Point :=
  let a := mul (sub p.y p.x) (sub q.y q.x)
  let b := mul (p.y + p.x) (q.y + q.x)
  let c := mul (2 * coefficient) (mul p.t q.t)
  let d := mul (2 * p.z) q.z
  let e := sub b a
  let f := sub d c
  let g := add d c
  let h := add b a
  ⟨mul e f, mul g h, mul f g, mul e h⟩

def Point.negate (p : Point) : Point := ⟨sub 0 p.x, p.y, p.z, sub 0 p.t⟩

/-- Doubling and adding, from the lowest binary digit of the factor; `digits` bounds their number. -/
def timesDigits : Nat → Nat → Point → Point → Point
  | 0, _, _, sum => sum
  | digits + 1, factor, point, sum =>
      if factor = 0 then sum
      else timesDigits digits (factor / 2) (point.plus point) (if factor % 2 = 1 then sum.plus point else sum)

def Point.times (point : Point) (factor : Nat) : Point :=
  timesDigits (factor.log2 + 1) factor point identity

/-! ### Multiples of the base point -/

def multiplesFrom : Nat → Point → Point → List Point
  | 0, _, _ => []
  | count + 1, point, multiple => multiple :: multiplesFrom count point (multiple.plus point)

def rowsFrom : Nat → Point → List (Array Point)
  | 0, _ => []
  | places + 1, point =>
      (multiplesFrom 16 point identity).toArray :: rowsFrom places (point.times 16)

def baseRows : List (Array Point) := rowsFrom 64 base

def timesRows : List (Array Point) → Nat → Point → Point
  | [], _, sum => sum
  | row :: rows, factor, sum => timesRows rows (factor / 16) (sum.plus (row.getD (factor % 16) identity))

def baseTimes (factor : Nat) : Point := timesRows baseRows factor identity

def Point.encode (p : Point) : Bytes :=
  let inverse := inverse p.z
  let x := mul p.x inverse
  let y := mul p.y inverse
  Bytes.littleEndian 32 (y + x % 2 * Nat.pow 2 255)

def rootOfRatio? (u v : Nat) : Option Nat :=
  let v3 := mul v (mul v v)
  let v7 := mul v (mul v3 v3)
  let candidate := mul (mul u v3) (pow (mul u v7) ((modulus - 5) / 8))
  let check := mul v (mul candidate candidate)
  let root :=
    if check = u % modulus then some candidate
    else if check = sub 0 u then some (mul candidate rootOfMinusOne)
    else none
  root.map fun root => if root % 2 = 1 then modulus - root else root

/-- Reads an encoded point. The ordinate counts modulo the field's size, and an abscissa of zero may
carry either parity. -/
def decode? (bytes : Bytes) : Option Point :=
  let number := Bytes.ofLittleEndian bytes
  let odd := number / Nat.pow 2 255 % 2 = 1
  let y := number % Nat.pow 2 255 % modulus
  let square := mul y y
  (rootOfRatio? (sub square 1) (add (mul coefficient square) 1)).map fun root =>
    let x := if odd then sub 0 root else root
    ⟨x, y, 1, mul x y⟩

end Hashgraph.Curve
