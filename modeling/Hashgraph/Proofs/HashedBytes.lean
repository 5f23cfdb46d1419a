import Hashgraph.Event

/-! What an event's hash says about the event. In the byte string that is hashed, the end of every part can be
told from what stands in front of it, so the string determines the parts; and two events with one hash have the
same parts, unless their byte strings are a collision of BLAKE3. -/

namespace Hashgraph

namespace Bytes

/-- If two longer byte strings that start with these are equal, then `same` holds, and what follows is equal. -/
def Delimited (a b : Bytes) (same : Prop) : Prop :=
  ∀ restA restB : Bytes, a ++ restA = b ++ restB → same ∧ restA = restB

theorem Delimited.of_length {a b : Bytes} {same : Prop} (length : a.length = b.length) (equal : a = b → same) :
    Delimited a b same := by
  intro restA restB whole
  obtain ⟨front, rest⟩ := List.append_inj whole length
  exact ⟨equal front, rest⟩

theorem Delimited.append {a b c d : Bytes} {first second : Prop} (front : Delimited a b first)
    (back : first → Delimited c d second) : Delimited (a ++ c) (b ++ d) (first ∧ second) := by
  intro restA restB whole
  rw [List.append_assoc, List.append_assoc] at whole
  obtain ⟨holds, behind⟩ := front _ _ whole
  obtain ⟨holdsToo, rest⟩ := back holds _ _ behind
  exact ⟨⟨holds, holdsToo⟩, rest⟩

theorem Delimited.imp {a b : Bytes} {same other : Prop} (delimited : Delimited a b same) (implied : same → other) :
    Delimited a b other := by
  intro restA restB whole
  obtain ⟨holds, rest⟩ := delimited restA restB whole
  exact ⟨implied holds, rest⟩

theorem Delimited.of_eq {a b : Bytes} {same : Prop} (delimited : Delimited a b same) (equal : a = b) : same :=
  (delimited [] [] (by rw [equal])).1

theorem delimited_littleEndian {count a b : Nat} (boundA : a < Nat.pow 256 count) (boundB : b < Nat.pow 256 count) :
    Delimited (littleEndian count a) (littleEndian count b) (a = b) := by
  apply Delimited.of_length
  · simp
  · intro equal
    rw [← ofLittleEndian_littleEndian count a boundA, equal, ofLittleEndian_littleEndian count b boundB]

theorem delimited_word64 (a b : UInt64) : Delimited (word64 a) (word64 b) (a = b) :=
  (delimited_littleEndian a.toNat_lt_size b.toNat_lt_size).imp UInt64.toNat_inj.mp

theorem delimited_flatMap {α β : Type} {encode : α → Bytes} {view : α → β} {as bs : List α}
    (length : as.length = bs.length)
    (each : ∀ a ∈ as, ∀ b ∈ bs, Delimited (encode a) (encode b) (view a = view b)) :
    Delimited (as.flatMap encode) (bs.flatMap encode) (as.map view = bs.map view) := by
  induction as generalizing bs with
  | nil =>
      obtain rfl := List.length_eq_zero_iff.mp length.symm
      exact .of_length rfl fun _ => rfl
  | cons a as ih =>
      cases bs with
      | nil => simp at length
      | cons b bs =>
          have heads := each a List.mem_cons_self b List.mem_cons_self
          have tails := ih (by simpa using length) fun a laterA b laterB =>
            each a (List.mem_cons_of_mem _ laterA) b (List.mem_cons_of_mem _ laterB)
          simp only [List.flatMap_cons, List.map_cons, List.cons.injEq]
          exact heads.append fun _ => tails

end Bytes

open Bytes (Delimited)

namespace EventHash

@[simp] theorem length_toBytes (hash : EventHash) : hash.toBytes.length = 32 := by
  simp [toBytes]

theorem toBytes_injective {a b : EventHash} (same : a.toBytes = b.toBytes) : a = b := by
  obtain ⟨a⟩ := a
  obtain ⟨b⟩ := b
  exact congrArg EventHash.mk (Vector.toList_inj.mp same)

theorem delimited_toBytes (a b : EventHash) : Delimited a.toBytes b.toBytes (a = b) :=
  .of_length (by simp) toBytes_injective

theorem toBytes_ofContent (content : Bytes) : (ofContent content).toBytes = Blake3.hash content := by
  have length : (Blake3.hash content).length = 32 := by
    simp [Blake3.hash, WordOctet.toBytes, WordOctet.words, Bytes.word32]
  have whole : (Blake3.hash content).take 32 = Blake3.hash content := List.take_of_length_le (by omega)
  simp [ofContent, ofBytes?, Bytes.fixed?, Bytes.takeFixed?, toBytes, length, whole]

end EventHash

namespace Blake3

def Collide (a b : Bytes) : Prop := a ≠ b ∧ hash a = hash b

end Blake3

theorem EventHash.ofContent_eq_iff (a b : Bytes) :
    EventHash.ofContent a = EventHash.ofContent b ↔ a = b ∨ Blake3.Collide a b := by
  constructor
  · intro same
    have hashes : Blake3.hash a = Blake3.hash b := by
      rw [← toBytes_ofContent, same, toBytes_ofContent]
    by_cases equal : a = b
    · exact Or.inl equal
    · exact Or.inr ⟨equal, hashes⟩
  · rintro (rfl | ⟨_, same⟩)
    · rfl
    · apply toBytes_injective
      rw [toBytes_ofContent, toBytes_ofContent, same]

namespace Instant

theorem nanos_eq (time : Instant) : time.nanos = time.seconds * nanosPerSecond + time.subsecond :=
  (Int.fdiv_mul_add_fmod _ _).symm

theorem subsecond_bounds (time : Instant) : 0 ≤ time.subsecond ∧ time.subsecond < 1000000000 :=
  ⟨Int.fmod_nonneg_of_pos _ (by decide), Int.fmod_lt_of_pos _ (by decide)⟩

theorem seconds_bounds (time : Instant) :
    -9223372036854775808 ≤ time.seconds ∧ time.seconds < 9223372036854775808 := by
  have whole := time.nanos_eq
  have part := time.subsecond_bounds
  have earliest := time.earliest_le
  have latest := time.le_latest
  simp only [nanosPerSecond] at whole
  omega

theorem eq_of_parts {a b : Instant} (seconds : a.seconds = b.seconds) (subsecond : a.subsecond = b.subsecond) :
    a = b := by
  have nanos : a.nanos = b.nanos := by rw [a.nanos_eq, b.nanos_eq, seconds, subsecond]
  obtain ⟨nanosA, _, _⟩ := a
  obtain ⟨nanosB, _, _⟩ := b
  cases nanos
  rfl

end Instant

/-- Of the parents only the hashes count. -/
structure HashedParts where
  creator : NodeId
  selfParent : Option EventHash
  otherParents : List EventHash
  birthRound : Round
  timeCreated : Instant
  transactions : List Transaction
deriving DecidableEq

namespace EventContent

def hashedParts (content : EventContent) : HashedParts where
  creator := content.creator
  selfParent := content.selfParent.map EventDescriptor.hash
  otherParents := content.otherParents.map EventDescriptor.hash
  birthRound := content.birthRound
  timeCreated := content.timeCreated
  transactions := content.transactions

/-- All lengths are numbers of 64 bits, as in every memory that such numbers address. -/
structure Counted (content : EventContent) : Prop where
  otherParents : content.otherParents.length < UInt64.size
  transactions : content.transactions.length < UInt64.size
  payloads : ∀ transaction ∈ content.transactions, transaction.size < UInt64.size

instance (content : EventContent) : Decidable content.Counted :=
  decidable_of_iff (content.otherParents.length < UInt64.size ∧ content.transactions.length < UInt64.size ∧
      ∀ transaction ∈ content.transactions, transaction.size < UInt64.size)
    ⟨fun ⟨otherParents, transactions, payloads⟩ => ⟨otherParents, transactions, payloads⟩,
      fun counted => ⟨counted.otherParents, counted.transactions, counted.payloads⟩⟩

theorem delimited_encodeSelfParent (a b : Option EventDescriptor) :
    Delimited (encodeSelfParent a) (encodeSelfParent b) (a.map EventDescriptor.hash = b.map EventDescriptor.hash) := by
  cases a with
  | none =>
      cases b with
      | none => exact .of_length rfl fun _ => rfl
      | some b =>
          intro restA restB whole
          simp [encodeSelfParent] at whole
  | some a =>
      cases b with
      | none =>
          intro restA restB whole
          simp [encodeSelfParent] at whole
      | some b =>
          have tagged : Delimited ([1] ++ a.hash.toBytes) ([1] ++ b.hash.toBytes) (True ∧ a.hash = b.hash) :=
            (Delimited.of_length rfl fun _ => trivial).append fun _ => EventHash.delimited_toBytes a.hash b.hash
          exact tagged.imp fun same => congrArg some same.2

theorem delimited_encodeList {α β : Type} {encode : α → Bytes} {view : α → β} {as bs : List α}
    (boundA : as.length < UInt64.size) (boundB : bs.length < UInt64.size)
    (each : ∀ a ∈ as, ∀ b ∈ bs, Delimited (encode a) (encode b) (view a = view b)) :
    Delimited (encodeList encode as) (encodeList encode bs) (as.map view = bs.map view) :=
  ((Bytes.delimited_littleEndian boundA boundB).append fun length => Bytes.delimited_flatMap length each).imp
    And.right

theorem delimited_encodeTransaction {a b : Transaction} (boundA : a.size < UInt64.size)
    (boundB : b.size < UInt64.size) : Delimited (encodeTransaction a) (encodeTransaction b) (a = b) := by
  have parts : Delimited (encodeTransaction a) (encodeTransaction b) (a.size = b.size ∧ a.payload = b.payload) :=
    (Bytes.delimited_littleEndian boundA boundB).append fun size => .of_length size id
  apply parts.imp
  intro same
  cases a
  cases b
  exact congrArg Transaction.mk same.2

theorem delimited_encodeTime (a b : Instant) : Delimited (encodeTime a) (encodeTime b) (a = b) := by
  have part := a.subsecond_bounds
  have partB := b.subsecond_bounds
  have parts : Delimited (encodeTime a) (encodeTime b)
      ((a.seconds % UInt64.size).toNat = (b.seconds % UInt64.size).toNat ∧
        a.subsecond.toNat = b.subsecond.toNat) := by
    apply Delimited.append
    · apply Bytes.delimited_littleEndian <;> simp only [UInt64.size, Nat.pow_eq] <;> omega
    · intro _
      apply Bytes.delimited_littleEndian <;> simp only [Nat.pow_eq] <;> omega
  apply parts.imp
  rintro ⟨seconds, subseconds⟩
  -- Seconds are written modulo 2⁶⁴, which keeps them apart within the calendar.
  have bounds := a.seconds_bounds
  have boundsB := b.seconds_bounds
  simp only [UInt64.size] at seconds
  exact Instant.eq_of_parts (by omega) (by omega)

theorem delimited_encode {a b : EventContent} (countedA : a.Counted) (countedB : b.Counted) :
    Delimited a.encode b.encode (a.hashedParts = b.hashedParts) := by
  have creator := Bytes.delimited_word64 a.creator.number b.creator.number
  have selfParent := delimited_encodeSelfParent a.selfParent b.selfParent
  have otherParents := delimited_encodeList countedA.otherParents countedB.otherParents fun x _ y _ =>
    EventHash.delimited_toBytes x.hash y.hash
  have birthRound := Bytes.delimited_word64 a.birthRound b.birthRound
  have timeCreated := delimited_encodeTime a.timeCreated b.timeCreated
  have transactions : Delimited (encodeList encodeTransaction a.transactions)
      (encodeList encodeTransaction b.transactions) (a.transactions.map id = b.transactions.map id) :=
    delimited_encodeList countedA.transactions countedB.transactions fun x listedA y listedB =>
      delimited_encodeTransaction (countedA.payloads x listedA) (countedB.payloads y listedB)
  have parts := ((((creator.append fun _ => selfParent).append fun _ => otherParents).append fun _ =>
    birthRound).append fun _ => timeCreated).append fun _ => transactions
  apply parts.imp
  rintro ⟨⟨⟨⟨⟨creator, selfParent⟩, otherParents⟩, birthRound⟩, timeCreated⟩, payloads⟩
  simp only [List.map_id] at payloads
  simp only [hashedParts, HashedParts.mk.injEq]
  exact ⟨congrArg NodeId.mk creator, selfParent, otherParents, birthRound, timeCreated, payloads⟩

theorem encodeSelfParent_eq (parent : Option EventDescriptor) :
    encodeSelfParent parent = (parent.map EventDescriptor.hash).elim [0] fun hash => 1 :: hash.toBytes := by
  cases parent <;> rfl

theorem encode_congr {a b : EventContent} (same : a.hashedParts = b.hashedParts) : a.encode = b.encode := by
  simp only [hashedParts, HashedParts.mk.injEq] at same
  obtain ⟨creator, selfParent, otherParents, birthRound, timeCreated, transactions⟩ := same
  have own : encodeSelfParent a.selfParent = encodeSelfParent b.selfParent := by
    rw [encodeSelfParent_eq, selfParent, ← encodeSelfParent_eq]
  have others := congrArg (encodeList EventHash.toBytes) otherParents
  simp only [encodeList, List.length_map, List.flatMap_map] at others
  simp only [encode, encodeList, creator, own, others, birthRound, timeCreated, transactions]

/-- The hashed byte string of an event determines its creator, the hashes of its parents, its birth round, its time
and its transactions, and is determined by them. Two events have one hash just if all these are equal, or their
byte strings are a collision of BLAKE3. -/
theorem hashed_bytes_determine_the_content {a b : EventContent} (countedA : a.Counted) (countedB : b.Counted) :
    (a.encode = b.encode ↔ a.hashedParts = b.hashedParts) ∧
      (a.hash = b.hash ↔
        a.hashedParts = b.hashedParts ∨ Blake3.Collide a.encode b.encode) := by
  have bytes : a.encode = b.encode ↔ a.hashedParts = b.hashedParts :=
    ⟨(delimited_encode countedA countedB).of_eq, encode_congr⟩
  refine ⟨bytes, ?_⟩
  rw [← bytes]
  exact EventHash.ofContent_eq_iff a.encode b.encode

def parcelContent (generation : Generation) (payloads : List Bytes) : EventContent :=
  ⟨⟨1⟩, some ⟨⟨1⟩, 1, generation, .zero⟩, [⟨⟨2⟩, 1, 4, .zero⟩], 2, .epoch, payloads.map Transaction.mk⟩

/-- The generation of a parent is not hashed; where one transaction ends and the next begins is. -/
theorem parcels_differ_by_their_borders :
    let first := parcelContent 4 [[1], [2, 3]]
    let second := parcelContent 7 [[1], [2, 3]]
    let third := parcelContent 4 [[1, 2], [3]]
    first ≠ second ∧ first.hash = second.hash ∧ first.encode ≠ third.encode ∧
      (first.hash = third.hash → Blake3.Collide first.encode third.encode) := by
  intro first second third
  have counted : first.Counted ∧ second.Counted ∧ third.Counted := by decide
  have regraded := hashed_bytes_determine_the_content counted.1 counted.2.1
  have moved := hashed_bytes_determine_the_content counted.1 counted.2.2
  have apart : first.hashedParts ≠ third.hashedParts := by decide
  exact ⟨by decide, regraded.2.mpr (Or.inl (by decide)), mt moved.1.mp apart,
    fun same => (moved.2.mp same).resolve_left apart⟩

end EventContent

end Hashgraph
