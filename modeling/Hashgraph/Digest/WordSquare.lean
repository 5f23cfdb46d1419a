import Hashgraph.Bytes

/-! Four by four squares of 32-bit words, the working state of several stream functions: a round mixes
the four columns and then the four diagonals. -/

namespace Hashgraph

structure WordOctet where
  w0 : UInt32
  w1 : UInt32
  w2 : UInt32
  w3 : UInt32
  w4 : UInt32
  w5 : UInt32
  w6 : UInt32
  w7 : UInt32
deriving DecidableEq

namespace WordOctet

def words (octet : WordOctet) : List UInt32 :=
  [octet.w0, octet.w1, octet.w2, octet.w3, octet.w4, octet.w5, octet.w6, octet.w7]

def ofWords (words : List UInt32) : WordOctet :=
  let word (index : Nat) : UInt32 := (words[index]?).getD 0
  ⟨word 0, word 1, word 2, word 3, word 4, word 5, word 6, word 7⟩

def toBytes (octet : WordOctet) : Bytes := octet.words.flatMap Bytes.word32

end WordOctet

def wordsOfBytes (bytes : Bytes) : List UInt32 :=
  match bytes with
  | a :: b :: c :: d :: rest =>
      (a.toUInt32 ||| b.toUInt32 <<< 8 ||| c.toUInt32 <<< 16 ||| d.toUInt32 <<< 24) :: wordsOfBytes rest
  | [] => []
  | short => [(Bytes.ofLittleEndian short).toUInt32]

structure WordSquare where
  upper : WordOctet
  lower : WordOctet
deriving DecidableEq

namespace WordSquare

def words (square : WordSquare) : List UInt32 := square.upper.words ++ square.lower.words

def ofWords (words : List UInt32) : WordSquare := ⟨.ofWords words, .ofWords (words.drop 8)⟩

end WordSquare

@[inline] def rotateRight (word amount : UInt32) : UInt32 := word >>> amount ||| word <<< (32 - amount)

end Hashgraph
