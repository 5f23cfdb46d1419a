import Hashgraph.Proofs.TransactionFlow

/-! What one call takes out of the pool. It is the longest part at the front of the queue that holds a single
transaction or stays within the limit, so every call takes something as long as there is something to take. -/

namespace Hashgraph

namespace TransactionPool

def bytes : List Transaction → Nat
  | [] => 0
  | first :: rest => first.size + bytes rest

/-- What an event may take: one transaction of any size, or no more bytes than the limit. -/
def Fits (maxBytes : Nat) (transactions : List Transaction) : Prop :=
  transactions.length ≤ 1 ∨ bytes transactions ≤ maxBytes

instance (maxBytes : Nat) (transactions : List Transaction) : Decidable (Fits maxBytes transactions) :=
  inferInstanceAs (Decidable (transactions.length ≤ 1 ∨ bytes transactions ≤ maxBytes))

def drains : TransactionPool → List Nat → List (List Transaction) × TransactionPool
  | pool, [] => ([], pool)
  | pool, maxBytes :: limits =>
      let (taken, left) := pool.drain maxBytes
      let (batches, last) := left.drains limits
      (taken :: batches, last)

theorem isPrefix_takeFitting_iff {maxBytes used : Nat} {front transactions : List Transaction}
    (first : front <+: transactions) :
    front <+: (takeFitting maxBytes used transactions).1 ↔ front = [] ∨ used + bytes front ≤ maxBytes := by
  induction transactions generalizing front used with
  | nil =>
      obtain rfl := List.prefix_nil.mp first
      simp
  | cons next rest ih =>
      cases front with
      | nil => simp
      | cons head more =>
          obtain ⟨rfl, inRest⟩ := List.cons_prefix_cons.mp first
          simp only [takeFitting, reduceCtorEq, false_or, bytes]
          split
          · rename_i tooMuch
            simp only [List.prefix_nil, reduceCtorEq, false_iff]
            omega
          · rename_i fits
            rw [List.cons_prefix_cons, ih inRest]
            constructor
            · rintro ⟨_, rfl | more⟩
              · simpa [bytes] using fits
              · omega
            · intro whole
              exact ⟨rfl, Or.inr (by omega)⟩

theorem isPrefix_drain_iff {maxBytes : Nat} {front : List Transaction} {pool : TransactionPool}
    (first : front <+: pool.pending) : front <+: (pool.drain maxBytes).1 ↔ Fits maxBytes front := by
  unfold drain
  split
  · rename_i nothing
    rw [nothing] at first
    obtain rfl := List.prefix_nil.mp first
    simp [Fits]
  · rename_i head rest waiting
    rw [waiting] at first
    cases front with
    | nil => simp [Fits]
    | cons next more =>
        obtain ⟨rfl, inRest⟩ := List.cons_prefix_cons.mp first
        simp only [List.cons_prefix_cons, true_and, isPrefix_takeFitting_iff inRest, Fits, bytes,
          List.length_cons]
        rw [← List.length_eq_zero_iff]
        omega

theorem isPrefix_pending (maxBytes : Nat) (pool : TransactionPool) : (pool.drain maxBytes).1 <+: pool.pending :=
  ⟨_, drain_append maxBytes pool⟩

theorem drain_eq_nil_iff {maxBytes : Nat} {pool : TransactionPool} :
    (pool.drain maxBytes).1 = [] ↔ pool.pending = [] := by
  unfold drain
  split
  · rename_i nothing
    simp [nothing]
  · rename_i first rest waiting
    simp [waiting]

theorem length_drain_add_size (maxBytes : Nat) (pool : TransactionPool) :
    (pool.drain maxBytes).1.length + (pool.drain maxBytes).2.size = pool.size := by
  have parts := congrArg List.length (drain_append maxBytes pool)
  rwa [List.length_append] at parts

theorem flatten_drains (pool : TransactionPool) (limits : List Nat) :
    (pool.drains limits).1.flatten ++ (pool.drains limits).2.pending = pool.pending := by
  induction limits generalizing pool with
  | nil => simp [drains]
  | cons maxBytes limits ih =>
      simp only [drains, List.flatten_cons, List.append_assoc, ih]
      exact drain_append maxBytes pool

theorem size_drain_le (maxBytes : Nat) (pool : TransactionPool) : (pool.drain maxBytes).2.size ≤ pool.size - 1 := by
  have parts := pool.length_drain_add_size maxBytes
  by_cases nothing : (pool.drain maxBytes).1 = []
  · have waiting : pool.size = 0 := by simp [size, drain_eq_nil_iff.mp nothing]
    omega
  · have taken := List.length_pos_iff.mpr nothing
    omega

theorem size_drains_le (pool : TransactionPool) (limits : List Nat) :
    (pool.drains limits).2.size ≤ pool.size - limits.length := by
  induction limits generalizing pool with
  | nil => simp [drains]
  | cons maxBytes limits ih =>
      calc ((pool.drain maxBytes).2.drains limits).2.size
          ≤ (pool.drain maxBytes).2.size - limits.length := ih _
        _ ≤ pool.size - (limits.length + 1) := by
            have fewer := pool.size_drain_le maxBytes
            omega

theorem eq_empty_of_size {pool : TransactionPool} (nothing : pool.size = 0) : pool = empty := by
  obtain ⟨pending⟩ := pool
  exact congrArg mk (List.length_eq_zero_iff.mp nothing)

/-- Whatever the limit, a call takes the longest part at the front of the queue that fits, leaves the rest in its
order, and takes nothing only from an empty pool. Hence no calls, whatever their limits, change the order or lose
a transaction, and as many calls as there are transactions leave an empty pool. -/
theorem drains_take_the_longest_fitting_part (pool : TransactionPool) :
    (∀ maxBytes, let (taken, left) := pool.drain maxBytes
      taken ++ left.pending = pool.pending ∧ Fits maxBytes taken ∧
        (∀ front, front <+: pool.pending → Fits maxBytes front → front <+: taken) ∧
        (taken = [] ↔ pool.pending = [])) ∧
      ∀ limits, let (batches, left) := pool.drains limits
        batches.flatten ++ left.pending = pool.pending ∧ (pool.size ≤ limits.length → left = empty) := by
  constructor
  · intro maxBytes
    refine ⟨drain_append maxBytes pool, ?_, ?_, drain_eq_nil_iff⟩
    · exact (isPrefix_drain_iff (pool.isPrefix_pending maxBytes)).mp List.prefix_rfl
    · exact fun front first fits => (isPrefix_drain_iff first).mpr fits
  · intro limits
    refine ⟨pool.flatten_drains limits, ?_⟩
    intro enough
    have fewer := pool.size_drains_le limits
    exact eq_empty_of_size (by omega)

def mixedPool : TransactionPool := ⟨[12, 0, 4, 6, 1].map fun size => ⟨List.replicate size 0⟩⟩

theorem mixedPool_is_empty_behind_five_calls :
    let limits := List.replicate mixedPool.size 10
    mixedPool.pending.take 1 <+: (mixedPool.drain 10).1 ∧ ¬Fits 10 (mixedPool.pending.take 2) ∧
      (mixedPool.drains limits).1.map (List.map Transaction.size) = [[12], [0, 4, 6], [1], [], []] ∧
      (mixedPool.drains limits).2 = empty := by
  intro limits
  obtain ⟨each, all⟩ := drains_take_the_longest_fitting_part mixedPool
  obtain ⟨_, _, longest, _⟩ := each 10
  refine ⟨longest _ (List.take_prefix 1 _) (by decide), by decide, by decide, ?_⟩
  exact (all limits).2 (by decide)

end TransactionPool

end Hashgraph
