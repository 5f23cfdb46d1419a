/-! Finite maps as lists without repeated keys, the newest key first. `find?` is the view of a table: each
operation is described by what it does to `find?`. -/

namespace Hashgraph

structure Table (κ ν : Type) where
  entries : List (κ × ν)
  unique : (entries.map Prod.fst).Nodup

namespace Table

variable {κ ν : Type}

def empty : Table κ ν := ⟨[], List.nodup_nil⟩

instance : Inhabited (Table κ ν) := ⟨empty⟩

def keys (table : Table κ ν) : List κ := table.entries.map Prod.fst

def values (table : Table κ ν) : List ν := table.entries.map Prod.snd

def size (table : Table κ ν) : Nat := table.entries.length

def isEmpty (table : Table κ ν) : Bool := table.entries.isEmpty

def filter (accept : κ → ν → Bool) (table : Table κ ν) : Table κ ν where
  entries := table.entries.filter fun entry => accept entry.1 entry.2
  unique := List.Nodup.sublist (List.Sublist.map _ List.filter_sublist) table.unique

variable [DecidableEq κ]

def lookup (key : κ) : List (κ × ν) → Option ν
  | [] => none
  | (other, value) :: rest => if other = key then some value else lookup key rest

def find? (table : Table κ ν) (key : κ) : Option ν := lookup key table.entries

def contains (table : Table κ ν) (key : κ) : Bool := (table.find? key).isSome

def replace (key : κ) (value : ν) : List (κ × ν) → List (κ × ν)
  | [] => []
  | (other, old) :: rest => if other = key then (key, value) :: rest else (other, old) :: replace key value rest

theorem keys_replace (key : κ) (value : ν) (entries : List (κ × ν)) :
    (replace key value entries).map Prod.fst = entries.map Prod.fst := by
  induction entries with
  | nil => rfl
  | cons entry rest ih =>
      obtain ⟨other, old⟩ := entry
      by_cases same : other = key <;> simp [replace, same, ih]

theorem lookup_eq_none_iff (key : κ) (entries : List (κ × ν)) :
    lookup key entries = none ↔ key ∉ entries.map Prod.fst := by
  induction entries with
  | nil => simp [lookup]
  | cons entry rest ih =>
      obtain ⟨other, value⟩ := entry
      by_cases same : other = key
      · simp [lookup, same]
      · have different : key ≠ other := fun equal => same equal.symm
        simp [lookup, same, different, ih]

/-- Replaces the value of a known key, and puts a new key in front of all others. -/
def insert (table : Table κ ν) (key : κ) (value : ν) : Table κ ν :=
  if known : (lookup key table.entries).isSome then
    ⟨replace key value table.entries, (keys_replace key value table.entries).symm ▸ table.unique⟩
  else
    ⟨(key, value) :: table.entries, by
      simp only [Option.not_isSome_iff_eq_none] at known
      simpa using ⟨by simpa using (lookup_eq_none_iff key table.entries).mp known, table.unique⟩⟩

def erase (table : Table κ ν) (key : κ) : Table κ ν := table.filter fun other _ => other ≠ key

def modify (table : Table κ ν) (key : κ) (absent : ν) (change : ν → ν) : Table κ ν :=
  table.insert key (change ((table.find? key).getD absent))

@[simp] theorem find?_empty (key : κ) : (empty : Table κ ν).find? key = none := rfl

theorem lookup_replace (key other : κ) (value : ν) (entries : List (κ × ν)) :
    lookup other (replace key value entries) =
      if key = other then (lookup key entries).map fun _ => value else lookup other entries := by
  induction entries with
  | nil => simp [replace, lookup]
  | cons entry rest ih =>
      obtain ⟨first, old⟩ := entry
      by_cases same : first = key
      · subst same
        by_cases equal : first = other <;> simp [replace, lookup, equal]
      · by_cases equal : key = other
        · subst equal
          simpa [replace, lookup, same] using ih
        · simp [replace, lookup, same, equal, ih]

@[simp] theorem find?_insert (table : Table κ ν) (key other : κ) (value : ν) :
    (table.insert key value).find? other = if key = other then some value else table.find? other := by
  unfold insert find?
  split
  · rename_i known
    obtain ⟨old, found⟩ := Option.isSome_iff_exists.mp known
    simp [lookup_replace, found]
  · rfl

theorem lookup_filter (accept : κ → ν → Bool) (key : κ) (entries : List (κ × ν))
    (unique : (entries.map Prod.fst).Nodup) :
    lookup key (entries.filter fun entry => accept entry.1 entry.2) =
      (lookup key entries).filter (accept key) := by
  induction entries with
  | nil => rfl
  | cons entry rest ih =>
      obtain ⟨other, value⟩ := entry
      simp only [List.map_cons, List.nodup_cons] at unique
      have tail := ih unique.2
      by_cases same : other = key
      · subst same
        have absent : lookup other rest = none := by
          have missing := unique.1
          clear tail ih unique
          induction rest with
          | nil => rfl
          | cons head rest ih =>
              simp only [List.map_cons, List.mem_cons, not_or] at missing
              have different : head.1 ≠ other := fun equal => missing.1 equal.symm
              simpa [lookup, different] using ih missing.2
        by_cases accepted : accept other value = true
        · simp [List.filter, accepted, lookup, Option.filter]
        · simp only [Bool.not_eq_true] at accepted
          simp [List.filter, accepted, lookup, tail, absent, Option.filter]
      · by_cases accepted : accept other value = true
        · simp [List.filter, accepted, lookup, same, tail]
        · simp only [Bool.not_eq_true] at accepted
          simp [List.filter, accepted, lookup, same, tail]

@[simp] theorem find?_filter (accept : κ → ν → Bool) (table : Table κ ν) (key : κ) :
    (table.filter accept).find? key = (table.find? key).filter (accept key) :=
  lookup_filter accept key table.entries table.unique

@[simp] theorem find?_erase (table : Table κ ν) (key other : κ) :
    (table.erase key).find? other = if other = key then none else table.find? other := by
  rw [erase, find?_filter]
  by_cases same : other = key
  · subst same
    cases table.find? other <;> simp [Option.filter]
  · cases found : table.find? other <;> simp [Option.filter, same]

end Table

end Hashgraph
