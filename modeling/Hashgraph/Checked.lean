/-! Sums and products that have to fit into a 64-bit word. Where one does not, the program stops. -/

namespace Hashgraph

inductive Overflow where
  | overflow
deriving DecidableEq

def checkedAdd (a b : UInt64) : Option UInt64 := if a.toNat + b.toNat < UInt64.size then some (a + b) else none

def checkedMul (a b : UInt64) : Option UInt64 := if a.toNat * b.toNat < UInt64.size then some (a * b) else none

theorem checkedAdd_eq_some_iff {a b sum : UInt64} :
    checkedAdd a b = some sum ↔ sum.toNat = a.toNat + b.toNat := by
  have range := sum.toNat_lt_size
  unfold checkedAdd
  split
  · rename_i fits
    rw [Option.some.injEq, ← UInt64.toNat_inj, UInt64.toNat_add, Nat.mod_eq_of_lt fits]
    exact eq_comm
  · simp only [reduceCtorEq, false_iff]
    omega

theorem checkedAdd_eq_none_iff {a b : UInt64} : checkedAdd a b = none ↔ UInt64.size ≤ a.toNat + b.toNat := by
  simp [checkedAdd]

theorem exists_checkedAdd {a b : UInt64} (fits : a.toNat + b.toNat < UInt64.size) :
    ∃ sum, checkedAdd a b = some sum ∧ sum.toNat = a.toNat + b.toNat :=
  ⟨a + b, if_pos fits, by rw [UInt64.toNat_add, Nat.mod_eq_of_lt fits]⟩

theorem checkedMul_eq_some_iff {a b product : UInt64} :
    checkedMul a b = some product ↔ product.toNat = a.toNat * b.toNat := by
  have range := product.toNat_lt_size
  unfold checkedMul
  split
  · rename_i fits
    rw [Option.some.injEq, ← UInt64.toNat_inj, UInt64.toNat_mul, Nat.mod_eq_of_lt fits]
    exact eq_comm
  · simp only [reduceCtorEq, false_iff]
    omega

theorem exists_checkedMul {a b : UInt64} (fits : a.toNat * b.toNat < UInt64.size) :
    ∃ product, checkedMul a b = some product :=
  ⟨a * b, if_pos fits⟩

end Hashgraph
