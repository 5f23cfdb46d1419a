import Hashgraph.Digest.WordSquare

/-! The BLAKE3 hash function with 32 bytes of output, and its key derivation mode. A message is cut into
chunks of 1024 bytes; the chunks are the leaves of a binary tree that pairs neighbours layer by layer. -/

namespace Hashgraph.Blake3

def initial : WordOctet :=
  ⟨0x6a09e667, 0xbb67ae85, 0x3c6ef372, 0xa54ff53a, 0x510e527f, 0x9b05688c, 0x1f83d9ab, 0x5be0cd19⟩

def chunkStart : UInt32 := 1
def chunkEnd : UInt32 := 2
def parentNode : UInt32 := 4
def rootNode : UInt32 := 8
def keyContext : UInt32 := 32
def keyMaterial : UInt32 := 64

/-- One compression that has not been carried out yet: its last flags depend on its place in the tree. -/
structure Pending where
  chaining : WordOctet
  block : WordSquare
  counter : UInt64
  length : UInt32
  flags : UInt32

structure Quarter where
  a : UInt32
  b : UInt32
  c : UInt32
  d : UInt32

@[inline] def mix (a b c d x y : UInt32) : Quarter :=
  let a := a + b + x
  let d := rotateRight (d ^^^ a) 16
  let c := c + d
  let b := rotateRight (b ^^^ c) 12
  let a := a + b + y
  let d := rotateRight (d ^^^ a) 8
  let c := c + d
  let b := rotateRight (b ^^^ c) 7
  ⟨a, b, c, d⟩

def round (state message : WordSquare) : WordSquare :=
  let u := state.upper
  let l := state.lower
  let m := message.upper
  let n := message.lower
  let c0 := mix u.w0 u.w4 l.w0 l.w4 m.w0 m.w1
  let c1 := mix u.w1 u.w5 l.w1 l.w5 m.w2 m.w3
  let c2 := mix u.w2 u.w6 l.w2 l.w6 m.w4 m.w5
  let c3 := mix u.w3 u.w7 l.w3 l.w7 m.w6 m.w7
  let d0 := mix c0.a c1.b c2.c c3.d n.w0 n.w1
  let d1 := mix c1.a c2.b c3.c c0.d n.w2 n.w3
  let d2 := mix c2.a c3.b c0.c c1.d n.w4 n.w5
  let d3 := mix c3.a c0.b c1.c c2.d n.w6 n.w7
  ⟨⟨d0.a, d1.a, d2.a, d3.a, d3.b, d0.b, d1.b, d2.b⟩, ⟨d2.c, d3.c, d0.c, d1.c, d1.d, d2.d, d3.d, d0.d⟩⟩

def permute (message : WordSquare) : WordSquare :=
  let m := message.upper
  let n := message.lower
  ⟨⟨m.w2, m.w6, m.w3, n.w2, m.w7, m.w0, m.w4, n.w5⟩, ⟨m.w1, n.w3, n.w4, m.w5, n.w1, n.w6, n.w7, n.w0⟩⟩

def rounds : Nat → WordSquare → WordSquare → WordSquare
  | 0, state, _ => state
  | count + 1, state, message => rounds count (round state message) (permute message)

def Pending.compress (pending : Pending) (flags : UInt32) : WordOctet :=
  let start : WordSquare :=
    ⟨pending.chaining,
      ⟨initial.w0, initial.w1, initial.w2, initial.w3, pending.counter.toUInt32,
        (pending.counter >>> 32).toUInt32, pending.length, pending.flags ||| flags⟩⟩
  let last := rounds 7 start pending.block
  let u := last.upper
  let l := last.lower
  ⟨u.w0 ^^^ l.w0, u.w1 ^^^ l.w1, u.w2 ^^^ l.w2, u.w3 ^^^ l.w3, u.w4 ^^^ l.w4, u.w5 ^^^ l.w5,
    u.w6 ^^^ l.w6, u.w7 ^^^ l.w7⟩

def piecesFrom (width : Nat) : Nat → Bytes → List Bytes
  | 0, _ => []
  | fuel + 1, bytes => if bytes.isEmpty then [] else bytes.take width :: piecesFrom width fuel (bytes.drop width)

/-- Cuts a byte string into pieces of `width` bytes, the last one shorter; the empty string is one piece. -/
def pieces (width : Nat) (bytes : Bytes) : List Bytes :=
  if bytes.isEmpty then [[]] else piecesFrom width (bytes.length / width + 1) bytes

def chainBlocks (counter : UInt64) (mode : UInt32) : WordOctet → UInt32 → List Bytes → Pending
  | chaining, start, [] => ⟨chaining, .ofWords [], counter, 0, mode ||| start ||| chunkEnd⟩
  | chaining, start, [block] =>
      ⟨chaining, .ofWords (wordsOfBytes block), counter, block.length.toUInt32, mode ||| start ||| chunkEnd⟩
  | chaining, start, block :: next :: rest =>
      let pending : Pending := ⟨chaining, .ofWords (wordsOfBytes block), counter, 64, mode ||| start⟩
      chainBlocks counter mode (pending.compress 0) 0 (next :: rest)

def chunk (key : WordOctet) (mode : UInt32) (counter : Nat) (bytes : Bytes) : Pending :=
  chainBlocks counter.toUInt64 mode key chunkStart (pieces 64 bytes)

def join (key : WordOctet) (mode : UInt32) (left right : Pending) : Pending :=
  ⟨key, ⟨left.compress 0, right.compress 0⟩, 0, 64, mode ||| parentNode⟩

def layer (key : WordOctet) (mode : UInt32) : List Pending → List Pending
  | left :: right :: rest => join key mode left right :: layer key mode rest
  | short => short

def climb (key : WordOctet) (mode : UInt32) : Nat → List Pending → WordOctet
  | _, [] => key
  | _, [top] => { top with counter := 0 }.compress rootNode
  | 0, top :: _ => top.compress rootNode
  | height + 1, nodes => climb key mode height (layer key mode nodes)

/-- The root of the tree over all chunks. The number of chunks bounds its height. -/
def root (key : WordOctet) (mode : UInt32) (bytes : Bytes) : WordOctet :=
  let leaves := (pieces 1024 bytes).mapIdx fun counter piece => chunk key mode counter piece
  climb key mode leaves.length leaves

def hash (bytes : Bytes) : Bytes := (root initial 0 bytes).toBytes

def deriveKey (context : String) (material : Bytes) : Bytes :=
  (root (root initial keyContext context.toUTF8.toList) keyMaterial material).toBytes

end Hashgraph.Blake3
