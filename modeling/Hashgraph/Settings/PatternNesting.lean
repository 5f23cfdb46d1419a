/-! How deeply a pattern is nested. Groups, repetitions and classes are levels of their own, and so are sequences,
choices and sets, but only if they have several members. -/

namespace Hashgraph.FieldPattern

/-- The members of a sequence, a choice or a set: how many there are, and how deep the deepest of them is. -/
structure Members where
  count : Nat
  deepest : Nat

namespace Members

def empty : Members := ⟨0, 0⟩

def add (members : Members) (depth : Nat) : Members := ⟨members.count + 1, max members.deepest depth⟩

def depth (members : Members) : Nat := if 2 ≤ members.count then members.deepest + 1 else members.deepest

end Members

/-- What has been read of a group: its finished branches, and the parts of the one that is being read. The last
part stands apart, because it may still be repeated. -/
structure GroupNesting where
  branches : Members
  parts : Members
  last : Option Nat

namespace GroupNesting

def empty : GroupNesting := ⟨.empty, .empty, none⟩

def sequence (nesting : GroupNesting) : Members :=
  match nesting.last with
  | some depth => nesting.parts.add depth
  | none => nesting.parts

def add (nesting : GroupNesting) (depth : Nat) : GroupNesting := ⟨nesting.branches, nesting.sequence, some depth⟩

def repeatLast (nesting : GroupNesting) : GroupNesting := { nesting with last := nesting.last.map (· + 1) }

def endBranch (nesting : GroupNesting) : GroupNesting :=
  ⟨nesting.branches.add nesting.sequence.depth, .empty, none⟩

def depth (nesting : GroupNesting) : Nat := (nesting.branches.add nesting.sequence.depth).depth

end GroupNesting

/-- What has been read of a class: the members behind the last operator, and what stands in front of it. -/
structure ClassNesting where
  left : Option Nat
  members : Members

namespace ClassNesting

def ofCount (count : Nat) : ClassNesting := ⟨none, ⟨count, 0⟩⟩

def add (nesting : ClassNesting) (depth : Nat) : ClassNesting := { nesting with members := nesting.members.add depth }

def inner (nesting : ClassNesting) : Nat :=
  match nesting.left with
  | some left => max left nesting.members.depth + 1
  | none => nesting.members.depth

def operate (nesting : ClassNesting) : ClassNesting := ⟨some nesting.inner, .empty⟩

def depth (nesting : ClassNesting) : Nat := nesting.inner + 1

end ClassNesting

end Hashgraph.FieldPattern
