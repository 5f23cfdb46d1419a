import Hashgraph.EventWindow

/-! Events whose birth round lies behind the pending round wait here until that round is reached. -/

namespace Hashgraph

/-- Events filed by their birth rounds. The rounds rise, and the events of a round stand in the order of their
arrival. -/
structure RoundQueues where
  queues : List (Round × List Event)
  rising : queues.Pairwise fun earlier later => earlier.1 < later.1
  filed : ∀ queue ∈ queues, ∀ event ∈ queue.2, event.birthRound = queue.1

namespace RoundQueues

def empty : RoundQueues := ⟨[], List.Pairwise.nil, by simp⟩

def enqueue (event : Event) : List (Round × List Event) → List (Round × List Event)
  | [] => [(event.birthRound, [event])]
  | (round, events) :: rest =>
      if event.birthRound < round then (event.birthRound, [event]) :: (round, events) :: rest
      else if event.birthRound = round then (round, events ++ [event]) :: rest
      else (round, events) :: enqueue event rest

theorem mem_enqueue {event : Event} {queues : List (Round × List Event)} {queue : Round × List Event}
    (listed : queue ∈ enqueue event queues) :
    queue ∈ queues ∨ ∃ events, queue = (event.birthRound, events ++ [event]) ∧
      (events = [] ∨ (event.birthRound, events) ∈ queues) := by
  induction queues with
  | nil => exact Or.inr ⟨[], List.mem_singleton.mp listed, Or.inl rfl⟩
  | cons first rest ih =>
      obtain ⟨round, events⟩ := first
      simp only [enqueue] at listed
      split at listed
      · rcases List.mem_cons.mp listed with rfl | old
        · exact Or.inr ⟨[], rfl, Or.inl rfl⟩
        · exact Or.inl old
      split at listed
      · rename_i same
        rcases List.mem_cons.mp listed with rfl | old
        · exact Or.inr ⟨events, by rw [same], Or.inr (by simp [same])⟩
        · exact Or.inl (List.mem_cons_of_mem _ old)
      · rcases List.mem_cons.mp listed with rfl | later
        · exact Or.inl List.mem_cons_self
        · rcases ih later with old | ⟨before, shape, known⟩
          · exact Or.inl (List.mem_cons_of_mem _ old)
          · exact Or.inr ⟨before, shape, known.imp id (List.mem_cons_of_mem _)⟩

theorem rising_enqueue (event : Event) {queues : List (Round × List Event)}
    (rising : queues.Pairwise fun earlier later => earlier.1 < later.1) :
    (enqueue event queues).Pairwise fun earlier later => earlier.1 < later.1 := by
  induction queues with
  | nil => exact List.pairwise_singleton _ _
  | cons first rest ih =>
      obtain ⟨round, events⟩ := first
      obtain ⟨above, later⟩ := List.pairwise_cons.mp rising
      simp only [enqueue]
      split
      · rename_i below
        refine List.pairwise_cons.mpr ⟨?_, rising⟩
        intro queue listed
        rcases List.mem_cons.mp listed with rfl | rest
        · exact below
        · exact UInt64.lt_trans below (above queue rest)
      split
      · exact List.pairwise_cons.mpr ⟨above, later⟩
      · rename_i notBelow different
        refine List.pairwise_cons.mpr ⟨?_, ih later⟩
        intro queue listed
        rcases mem_enqueue listed with old | ⟨before, rfl, _⟩
        · exact above queue old
        · exact UInt64.lt_of_le_of_ne (UInt64.not_lt.mp notBelow) fun same => different same.symm

def push (queues : RoundQueues) (event : Event) : RoundQueues where
  queues := enqueue event queues.queues
  rising := rising_enqueue event queues.rising
  filed := by
    intro queue listed other member
    rcases mem_enqueue listed with old | ⟨before, rfl, known⟩
    · exact queues.filed queue old other member
    · rcases List.mem_append.mp member with earlier | last
      · rcases known with rfl | old
        · simp at earlier
        · exact queues.filed _ old other earlier
      · rw [List.mem_singleton.mp last]

def keep (accept : Round → Bool) (queues : RoundQueues) : RoundQueues where
  queues := queues.queues.filter fun queue => accept queue.1
  rising := queues.rising.filter _
  filed := fun queue listed => queues.filed queue (List.mem_filter.mp listed).1

def split (queues : RoundQueues) (cutoff : Round) : RoundQueues × RoundQueues :=
  (queues.keep (· < cutoff), queues.keep (cutoff ≤ ·))

def events (queues : RoundQueues) : List Event := queues.queues.flatMap Prod.snd

end RoundQueues

/-- The count is kept beside the held events, and the gauge shows it to the outside. A number of events in memory
cannot leave a machine word, so the count is a natural number. -/
structure HoldBuffer where
  window : EventWindow
  queues : RoundQueues
  count : Nat
  gauge : Int

namespace HoldBuffer

def start (mode : AncientMode) : HoldBuffer := ⟨.genesis mode, .empty, 0, 0⟩

def setCount (buffer : HoldBuffer) (count : Nat) : HoldBuffer :=
  { buffer with count := count, gauge := min count 9223372036854775807 }

def hold (buffer : HoldBuffer) (event : Event) : HoldBuffer :=
  { buffer with queues := buffer.queues.push event }.setCount (buffer.count + 1)

def add (buffer : HoldBuffer) (event : Event) : Except Overflow (Option Event) × HoldBuffer :=
  if buffer.window.isAncient event.descriptor then (.ok none, buffer)
  else
    match buffer.window.pendingRound? with
    | none => (.error .overflow, buffer)
    | some pending =>
        if event.birthRound ≤ pending then (.ok (some event), buffer)
        else (.ok none, buffer.hold event)

def release (buffer : HoldBuffer) (cutoff : Round) : List Event × HoldBuffer :=
  let (ready, later) := buffer.queues.split cutoff
  let released := ready.events.filter fun event => !buffer.window.isAncient event.descriptor
  let dropped := ready.events.filter fun event => buffer.window.isAncient event.descriptor
  (released, { buffer with queues := later }.setCount (buffer.count - (released.length + dropped.length)))

def cutoff? (window : EventWindow) : Option Round := window.pendingRound?.bind (checkedAdd · 1)

/-- The window stays when the cutoff does not exist. -/
def setWindow (buffer : HoldBuffer) (window : EventWindow) : Except Overflow (List Event) × HoldBuffer :=
  match cutoff? window with
  | none => (.error .overflow, { buffer with window := window })
  | some cutoff =>
      let (released, buffer) := { buffer with window := window }.release cutoff
      (.ok released, buffer)

/-- Goes back to the genesis window in the mode of the window before. -/
def clear (buffer : HoldBuffer) : HoldBuffer := start buffer.window.mode

end HoldBuffer

end Hashgraph
