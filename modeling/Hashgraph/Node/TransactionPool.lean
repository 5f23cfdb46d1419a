import Hashgraph.Event.Hash

/-! Transactions that wait for an event, in the order of their submission. -/

namespace Hashgraph

structure TransactionPool where
  pending : List Transaction
deriving DecidableEq

namespace TransactionPool

def empty : TransactionPool := ⟨[]⟩

def submit (pool : TransactionPool) (transaction : Transaction) : TransactionPool :=
  ⟨pool.pending ++ [transaction]⟩

def size (pool : TransactionPool) : Nat := pool.pending.length

def isEmpty (pool : TransactionPool) : Bool := pool.pending.isEmpty

def takeFitting (maxBytes : Nat) : Nat → List Transaction → List Transaction × List Transaction
  | _, [] => ([], [])
  | used, next :: rest =>
      if maxBytes < used + next.size then ([], next :: rest)
      else
        let (taken, left) := takeFitting maxBytes (used + next.size) rest
        (next :: taken, left)

/-- The first transaction is taken whatever its size. -/
def drain (maxBytes : Nat) (pool : TransactionPool) : List Transaction × TransactionPool :=
  match pool.pending with
  | [] => ([], pool)
  | first :: rest =>
      let (taken, left) := takeFitting maxBytes first.size rest
      (first :: taken, ⟨left⟩)

end TransactionPool

end Hashgraph
