import Hashgraph.Random.Stream

/-! Draws from a random stream: numbers below a bound, fractions of one, and random orders. -/

namespace Hashgraph.RandomStream

/-- A draw is repeated until a word is accepted, and each word is with a probability of at least one half: at least
half of all low parts lie within `acceptedLow`. As many rejections in a row as this bound allows have a probability
of at most 2⁻⁴⁰⁹⁶, so that the bound only makes the repetition a recursion on a number. -/
def maximumRejections : Nat := 4096

/-- The largest low half of a product that is accepted when drawing below `bound` from words of `width`
bits: the bound shifted up to the full width, less one. -/
def acceptedLow (width bound : Nat) : Nat := bound * Nat.pow 2 (width - (bound.log2 + 1)) - 1

/-- Scales a word of `width` bits to the numbers below `bound` and tries again while the scaled words
fall unevenly on them. -/
def scaled (width bound : Nat) (next : RandomStream → Nat × RandomStream) :
    Nat → RandomStream → Nat × RandomStream
  | 0, stream =>
      let (word, stream) := next stream
      (word * bound / Nat.pow 2 width, stream)
  | rejections + 1, stream =>
      let (word, stream) := next stream
      let product := word * bound
      if product % Nat.pow 2 width ≤ acceptedLow width bound then (product / Nat.pow 2 width, stream)
      else scaled width bound next rejections stream

def below32 (bound : Nat) (stream : RandomStream) : Nat × RandomStream :=
  scaled 32 bound (fun stream => let (word, stream) := stream.next32; (word.toNat, stream))
    maximumRejections stream

def below64 (bound : Nat) (stream : RandomStream) : Nat × RandomStream :=
  scaled 64 bound (fun stream => let (word, stream) := stream.next64; (word.toNat, stream))
    maximumRejections stream

def fraction (stream : RandomStream) : Float × RandomStream :=
  let (word, stream) := stream.next64
  ((word >>> 11).toFloat / 9007199254740992.0, stream)

/-- Exchanges each of the first `count` places, from the last one down, with a place not behind it. -/
def shuffleFrom {α : Type} : Nat → Array α → RandomStream → Array α × RandomStream
  | 0, items, stream => (items, stream)
  | place + 1, items, stream =>
      if place = 0 then (items, stream)
      else
        let (other, stream) := below32 (place + 1) stream
        shuffleFrom place (items.swapIfInBounds place other) stream

def shuffle {α : Type} (items : List α) (stream : RandomStream) : List α × RandomStream :=
  let (items, stream) := shuffleFrom items.length items.toArray stream
  (items.toList, stream)

end Hashgraph.RandomStream
