/-! Byte strings as lists: hexadecimal text and little-endian numbers. -/

namespace Hashgraph

abbrev Bytes := List UInt8

namespace Bytes

def hexDigit (value : UInt8) : Char :=
  if value < 10 then Char.ofNat (48 + value.toNat) else Char.ofNat (87 + value.toNat)

def hexChars (bytes : Bytes) : List Char :=
  bytes.flatMap fun (byte : UInt8) => [hexDigit (byte >>> 4), hexDigit (byte &&& 15)]

def toHex (bytes : Bytes) : String := String.ofList (hexChars bytes)

def hexValue? (digit : Char) : Option UInt8 :=
  if '0' ≤ digit ∧ digit ≤ '9' then some (digit.toNat - 48).toUInt8
  else if 'a' ≤ digit ∧ digit ≤ 'f' then some (digit.toNat - 87).toUInt8
  else if 'A' ≤ digit ∧ digit ≤ 'F' then some (digit.toNat - 55).toUInt8
  else none

/-- Reads digits of either case, from the last pair to the first so that long texts need no stack. -/
def ofHexReversed : List Char → Bytes → Option Bytes
  | [], read => some read
  | [_], _ => none
  | low :: high :: rest, read =>
      match hexValue? high, hexValue? low with
      | some high, some low => ofHexReversed rest ((high <<< 4 ||| low) :: read)
      | _, _ => none

def ofHex? (text : String) : Option Bytes := ofHexReversed text.toList.reverse []

def littleEndian : Nat → Nat → Bytes
  | 0, _ => []
  | count + 1, value => value.toUInt8 :: littleEndian count (value / 256)

def ofLittleEndian : Bytes → Nat
  | [] => 0
  | byte :: rest => byte.toNat + 256 * ofLittleEndian rest

def bigEndian (count value : Nat) : Bytes := (littleEndian count value).reverse

def ofBigEndian (bytes : Bytes) : Nat := ofLittleEndian bytes.reverse

def word32 (value : UInt32) : Bytes := littleEndian 4 value.toNat

def word64 (value : UInt64) : Bytes := littleEndian 8 value.toNat

def takeFixed? (count : Nat) (bytes : Bytes) : Option (Vector UInt8 count) :=
  let front := (bytes.take count).toArray
  if exact : front.size = count then some ⟨front, exact⟩ else none

def fixed? (count : Nat) (bytes : Bytes) : Option (Vector UInt8 count) :=
  if bytes.length = count then takeFixed? count bytes else none

@[simp] theorem length_littleEndian (count value : Nat) : (littleEndian count value).length = count := by
  induction count generalizing value with
  | zero => rfl
  | succ count ih => simp [littleEndian, ih]

theorem ofLittleEndian_littleEndian (count value : Nat) (bound : value < Nat.pow 256 count) :
    ofLittleEndian (littleEndian count value) = value := by
  induction count generalizing value with
  | zero =>
      simp only [Nat.pow_eq, Nat.pow_zero, Nat.lt_one_iff] at bound
      simp [littleEndian, ofLittleEndian, bound]
  | succ count ih =>
      have quotient : value / 256 < Nat.pow 256 count := by
        rw [Nat.div_lt_iff_lt_mul (by decide)]
        exact bound
      simp only [littleEndian, ofLittleEndian, ih _ quotient]
      have digit : value.toUInt8.toNat = value % 256 := by simp [Nat.toUInt8]
      omega

end Bytes

end Hashgraph
