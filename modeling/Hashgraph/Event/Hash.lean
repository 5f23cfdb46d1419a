import Hashgraph.Digest.Blake3
import Hashgraph.NodeId

/-! Event hashes, signatures and transactions. -/

namespace Hashgraph

structure EventHash where
  bytes : Vector UInt8 32
deriving DecidableEq

namespace EventHash

def zero : EventHash := ⟨Vector.replicate 32 0⟩

instance : Inhabited EventHash := ⟨zero⟩

def toBytes (hash : EventHash) : Bytes := hash.bytes.toList

def ofBytes? (bytes : Bytes) : Option EventHash := (Bytes.fixed? 32 bytes).map EventHash.mk

def ofContent (content : Bytes) : EventHash := (ofBytes? (Blake3.hash content)).getD zero

def hex (hash : EventHash) : String := Bytes.toHex hash.toBytes

def text (hash : EventHash) : String := Bytes.toHex (hash.toBytes.take 6)

def inspect (hash : EventHash) : String := "EventHash(" ++ Bytes.toHex (hash.toBytes.take 8) ++ ")"

def orderBytes : Bytes → Bytes → Ordering
  | [], [] => .eq
  | [], _ :: _ => .lt
  | _ :: _, [] => .gt
  | a :: as, b :: bs => if a < b then .lt else if b < a then .gt else orderBytes as bs

def order (a b : EventHash) : Ordering := orderBytes a.toBytes b.toBytes

end EventHash

structure Signature where
  bytes : Bytes
deriving DecidableEq

namespace Signature

def absent : Signature := ⟨[]⟩

def isAbsent (signature : Signature) : Bool := signature.bytes.isEmpty

def inspect (signature : Signature) : String := "Signature(" ++ Bytes.toHex (signature.bytes.take 8) ++ "..)"

end Signature

structure Transaction where
  payload : Bytes
deriving DecidableEq

namespace Transaction

def size (transaction : Transaction) : Nat := transaction.payload.length

def inspect (transaction : Transaction) : String :=
  "Transaction(" ++ digitText transaction.size ++ " bytes)"

end Transaction

end Hashgraph
