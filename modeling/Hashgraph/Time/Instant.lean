import Hashgraph.Decimal.Binary

/-! Points in time as nanoseconds since the start of 1970, limited to the years that a calendar date can
have, and lengths of time. -/

namespace Hashgraph

structure Instant where
  nanos : Int
  earliest_le : -8334601228800000000000 ≤ nanos
  le_latest : nanos ≤ 8210266876799999999999
deriving DecidableEq

namespace Instant

def nanosPerSecond : Nat := 1000000000

def epoch : Instant := ⟨0, by decide, by decide⟩

instance : Inhabited Instant := ⟨epoch⟩

def ofNanos? (nanos : Int) : Option Instant :=
  if range : -8334601228800000000000 ≤ nanos ∧ nanos ≤ 8210266876799999999999 then
    some ⟨nanos, range.1, range.2⟩
  else none

def seconds (time : Instant) : Int := time.nanos.fdiv nanosPerSecond

def subsecond (time : Instant) : Int := time.nanos.fmod nanosPerSecond

def ofParts? (seconds : Int) (subsecond : Nat) : Option Instant :=
  if subsecond < nanosPerSecond then ofNanos? (seconds * nanosPerSecond + subsecond) else none

def plus? (time : Instant) (nanos : Int) : Option Instant := ofNanos? (time.nanos + nanos)

/-- Moves by a signed 64-bit number of milliseconds. The most negative number is no length of time. -/
def plusMillis? (time : Instant) (millis : Int) : Option Instant :=
  if millis = -9223372036854775808 then none else time.plus? (millis * 1000000)

def later (a b : Instant) : Instant := if a.nanos ≤ b.nanos then b else a

theorem ofNanos?_eq_some {nanos : Int} {time : Instant} :
    ofNanos? nanos = some time ↔ time.nanos = nanos := by
  constructor
  · intro found
    unfold ofNanos? at found
    split at found
    · cases found
      rfl
    · exact absurd found (by simp)
  · intro equal
    subst equal
    simp [ofNanos?, time.earliest_le, time.le_latest]

end Instant

abbrev Span := Nat

namespace Span

def ofMillis (millis : UInt64) : Span := millis.toNat * 1000000

def parts (span : Span) : Nat × Nat := (span / Instant.nanosPerSecond, span % Instant.nanosPerSecond)

/-- Seconds to the nearest nanosecond. Negative values, and those that need more than 64 bits for the
seconds, have no length. -/
def ofSeconds? (seconds : Float) : Option Span :=
  match BinaryFloat.ofFloat? seconds with
  | none => none
  | some binary =>
      if binary.negative ∧ binary.mantissa ≠ 0 then none
      else
        let (numerator, denominator) := binary.ratio
        let span := roundedQuotient (numerator * Instant.nanosPerSecond) denominator
        if span / Instant.nanosPerSecond < UInt64.size then some span else none

end Span

end Hashgraph
