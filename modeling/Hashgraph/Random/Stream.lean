import Hashgraph.Digest.WordSquare

/-! Reproducible random words: the ChaCha key stream with eight rounds. A stream is its key and the number
of words already taken, so that the word at each position is a function of the key alone. -/

namespace Hashgraph

structure RandomStream where
  key : WordOctet
  position : Nat
deriving DecidableEq

namespace RandomStream

@[inline] def rotateLeft (word amount : UInt32) : UInt32 := word <<< amount ||| word >>> (32 - amount)

structure Quarter where
  a : UInt32
  b : UInt32
  c : UInt32
  d : UInt32

@[inline] def quarter (a b c d : UInt32) : Quarter :=
  let a := a + b
  let d := rotateLeft (d ^^^ a) 16
  let c := c + d
  let b := rotateLeft (b ^^^ c) 12
  let a := a + b
  let d := rotateLeft (d ^^^ a) 8
  let c := c + d
  let b := rotateLeft (b ^^^ c) 7
  ⟨a, b, c, d⟩

def doubleRound (state : WordSquare) : WordSquare :=
  let u := state.upper
  let l := state.lower
  let c0 := quarter u.w0 u.w4 l.w0 l.w4
  let c1 := quarter u.w1 u.w5 l.w1 l.w5
  let c2 := quarter u.w2 u.w6 l.w2 l.w6
  let c3 := quarter u.w3 u.w7 l.w3 l.w7
  let d0 := quarter c0.a c1.b c2.c c3.d
  let d1 := quarter c1.a c2.b c3.c c0.d
  let d2 := quarter c2.a c3.b c0.c c1.d
  let d3 := quarter c3.a c0.b c1.c c2.d
  ⟨⟨d0.a, d1.a, d2.a, d3.a, d3.b, d0.b, d1.b, d2.b⟩, ⟨d2.c, d3.c, d0.c, d1.c, d1.d, d2.d, d3.d, d0.d⟩⟩

def doubleRounds : Nat → WordSquare → WordSquare
  | 0, state => state
  | count + 1, state => doubleRounds count (doubleRound state)

def block (key : WordOctet) (number : UInt64) : List UInt32 :=
  let start : WordSquare :=
    ⟨⟨0x61707865, 0x3320646e, 0x79622d32, 0x6b206574, key.w0, key.w1, key.w2, key.w3⟩,
      ⟨key.w4, key.w5, key.w6, key.w7, number.toUInt32, (number >>> 32).toUInt32, 0, 0⟩⟩
  List.zipWith (· + ·) (doubleRounds 4 start).words start.words

def wordAt (key : WordOctet) (position : Nat) : UInt32 :=
  ((block key (position / 16).toUInt64)[position % 16]?).getD 0

def next32 (stream : RandomStream) : UInt32 × RandomStream :=
  (wordAt stream.key stream.position, { stream with position := stream.position + 1 })

def next64 (stream : RandomStream) : UInt64 × RandomStream :=
  let (low, stream) := stream.next32
  let (high, stream) := stream.next32
  (high.toUInt64 <<< 32 ||| low.toUInt64, stream)

def nextBytes : Nat → RandomStream → Bytes × RandomStream
  | 0, stream => ([], stream)
  | words + 1, stream =>
      let (word, stream) := stream.next32
      let (rest, stream) := nextBytes words stream
      (Bytes.word32 word ++ rest, stream)

def seedMultiplier : UInt64 := 6364136223846793005

def seedIncrement : UInt64 := 11634580027462260723

def seedWords : Nat → UInt64 → List UInt32
  | 0, _ => []
  | count + 1, state =>
      let state := state * seedMultiplier + seedIncrement
      let shifted := (((state >>> 18) ^^^ state) >>> 27).toUInt32
      let amount := (state >>> 59).toUInt32
      (shifted >>> amount ||| shifted <<< ((32 - amount) % 32)) :: seedWords count state

def ofSeed (seed : UInt64) : RandomStream := ⟨.ofWords (seedWords 8 seed), 0⟩

end RandomStream

end Hashgraph
