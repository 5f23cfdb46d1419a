/-! Sums and differences of 64-bit words that stop at the ends of the range. -/

namespace Hashgraph

def saturatingAdd (a b : UInt64) : UInt64 :=
  if a.toNat + b.toNat < UInt64.size then a + b else 0xffffffffffffffff

def saturatingSub (a b : UInt64) : UInt64 := if b ≤ a then a - b else 0

theorem toNat_saturatingAdd (a b : UInt64) :
    (saturatingAdd a b).toNat = min (a.toNat + b.toNat) (UInt64.size - 1) := by
  unfold saturatingAdd
  split
  · rename_i bound
    rw [UInt64.toNat_add, Nat.mod_eq_of_lt bound]
    omega
  · simp only [UInt64.reduceToNat, UInt64.size] at *
    omega

theorem toNat_saturatingSub (a b : UInt64) : (saturatingSub a b).toNat = a.toNat - b.toNat := by
  unfold saturatingSub
  split
  · rename_i ordered
    exact UInt64.toNat_sub_of_le _ _ ordered
  · rename_i reversed
    rw [UInt64.le_iff_toNat_le] at reversed
    simp only [UInt64.reduceToNat]
    omega

end Hashgraph
