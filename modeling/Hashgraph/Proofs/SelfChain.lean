import Hashgraph.Proofs.CreatorRun

/-! A node never forks its own chain: between two clearings each event that it makes is built on the one made
before, whatever is registered and whatever windows are installed in between. -/

namespace Hashgraph

namespace Creator

variable {σ : Type}

/-- The latest creation is the last event of the node and stays it, because it has no number. -/
structure Chained (chronicle : Chronicle) : Prop where
  held : ∀ latest ∈ chronicle.creations.head?, chronicle.creator.lastSelfEvent = some latest.event
  unnumbered : ∀ creation ∈ chronicle.creations, creation.event.nGen = none
  names : ∀ creation ∈ chronicle.creations, creation.event.selfParent = creation.before.lastDescriptor
  later : ∀ creation ∈ chronicle.creations, ∀ parent, creation.before.lastSelfEvent = some parent →
    parent.finish ≤ creation.event.timeCreated.nanos
  linked : chronicle.creations.IsChain fun later earlier => later.before.lastSelfEvent = some earlier.event

theorem Chained.of_creator {chronicle : Chronicle} (chained : Chained chronicle) {creator : Creator}
    (held : ∀ latest ∈ chronicle.creations.head?, creator.lastSelfEvent = some latest.event) :
    Chained { chronicle with creator := creator } where
  held := held
  unnumbered := chained.unnumbered
  names := chained.names
  later := chained.later
  linked := chained.linked

theorem Chained.nothing (creator : Creator) : Chained ⟨creator, []⟩ := by
  constructor <;> simp

theorem Chained.register {chronicle : Chronicle} (chained : Chained chronicle) (event : Event) :
    Chained (chronicle.next (.register event : Action σ)) := by
  apply chained.of_creator
  intro latest isLatest
  have held := chained.held latest isLatest
  have unnumbered := chained.unnumbered latest (List.mem_of_mem_head? isLatest)
  rcases chronicle.creator.register_cases event with same | ⟨_, _, newer, _⟩ | ⟨_, _, peer⟩
  · rw [same, held]
  · rw [isNewerSelfEvent_of_unnumbered held unnumbered event] at newer
    exact absurd newer (by simp)
  · rw [peer, held]

theorem Chained.attempt {chronicle : Chronicle} (chained : Chained chronicle) (surroundings : Surroundings σ)
    (now : Instant) (supply : σ) : Chained (chronicle.next (.attempt surroundings now supply)) := by
  rcases chronicle.next_attempt_cases surroundings now supply with
    ⟨other, event, after, result, _, made, extended⟩ | ⟨after, result, agrees⟩
  · rw [result]
    constructor
    case held =>
      intro latest isLatest
      cases isLatest
      exact extended.lastSelfEvent
    case unnumbered =>
      intro creation member
      rcases List.mem_cons.mp member with new | old
      · subst new
        exact made.nGen
      · exact chained.unnumbered creation old
    case names =>
      intro creation member
      rcases List.mem_cons.mp member with new | old
      · subst new
        exact made.selfParent
      · exact chained.names creation old
    case later =>
      intro creation member
      rcases List.mem_cons.mp member with new | old
      · subst new
        exact fun parent held => made.spaced held
      · exact chained.later creation old
    case linked =>
      rw [List.isChain_cons]
      exact ⟨chained.held, chained.linked⟩
  · rw [result]
    apply chained.of_creator
    intro latest isLatest
    rw [agrees.lastSelfEvent, chained.held latest isLatest]

theorem chained_history (creator : Creator) (actions : List (Action σ)) : Chained (creator.history actions) := by
  apply history_induction creator actions (motive := Chained)
  · exact .nothing creator
  · intro chronicle chained action _
    cases action with
    | register event => exact chained.register event
    | install window => exact chained.of_creator fun latest isLatest => chained.held latest isLatest
    | attempt surroundings now supply => exact chained.attempt surroundings now supply
    | clear => exact .nothing _

theorem times_spaced {creations : List Creation}
    (later : ∀ creation ∈ creations, ∀ parent, creation.before.lastSelfEvent = some parent →
      parent.finish ≤ creation.event.timeCreated.nanos)
    (linked : creations.IsChain fun later earlier => later.before.lastSelfEvent = some earlier.event) :
    creations.Pairwise fun late early => early.event.finish ≤ late.event.timeCreated.nanos := by
  induction creations with
  | nil => exact List.Pairwise.nil
  | cons latest rest ih =>
      have ordered := ih (fun creation member => later creation (List.mem_cons_of_mem _ member))
        (List.isChain_cons.mp linked).2
      refine List.pairwise_cons.mpr ⟨?_, ordered⟩
      intro early member
      cases rest with
      | nil => simp at member
      | cons next rest =>
          have held := (List.isChain_cons.mp linked).1 next rfl
          have step := later latest List.mem_cons_self next.event held
          rcases List.mem_cons.mp member with same | older
          · exact same ▸ step
          · have before := (List.pairwise_cons.mp ordered).1 early older
            have ends := next.event.start_lt_finish
            omega

theorem parents_increase {creations : List Creation}
    (later : ∀ creation ∈ creations, ∀ parent, creation.before.lastSelfEvent = some parent →
      parent.finish ≤ creation.event.timeCreated.nanos)
    (linked : creations.IsChain fun later earlier => later.before.lastSelfEvent = some earlier.event) :
    creations.Pairwise fun late early => ∃ parent, late.before.lastSelfEvent = some parent ∧
      ∀ other, early.before.lastSelfEvent = some other → other.timeCreated.nanos < parent.timeCreated.nanos := by
  have times := times_spaced later linked
  induction creations with
  | nil => exact List.Pairwise.nil
  | cons latest rest ih =>
      have ordered := ih (fun creation member => later creation (List.mem_cons_of_mem _ member))
        (List.isChain_cons.mp linked).2 (List.pairwise_cons.mp times).2
      refine List.pairwise_cons.mpr ⟨?_, ordered⟩
      intro early member
      cases rest with
      | nil => simp at member
      | cons next rest =>
          -- The self-parent is the event made before, which no earlier event's self-parent can be.
          refine ⟨next.event, (List.isChain_cons.mp linked).1 next rfl, ?_⟩
          intro other held
          have step := later early (List.mem_cons_of_mem _ member) other held
          have otherEnds := other.start_lt_finish
          rcases List.mem_cons.mp member with same | older
          · subst same
            omega
          · have before := (List.pairwise_cons.mp (List.pairwise_cons.mp times).2).1 early older
            have earlyEnds := early.event.start_lt_finish
            omega

/-- Since the last clearing, the latest first: every event names the event that the node then held last, which
is the one made before if there is one. No two events are built on the same event, at most the first has no
self-parent, and two could name the same descriptor only if the hashes of two events of different times were
equal. -/
theorem created_events_form_a_chain (creator : Creator) (actions : List (Action σ)) :
    let creations := (creator.history actions).creations
    (∀ creation ∈ creations, creation.event.selfParent = creation.before.lastDescriptor) ∧
      (creations.IsChain fun later earlier => later.before.lastSelfEvent = some earlier.event ∧
        later.event.selfParent = some earlier.event.descriptor) ∧
      creations.Pairwise fun later earlier =>
        later.before.lastSelfEvent ≠ earlier.before.lastSelfEvent ∧ later.event.selfParent ≠ none ∧
          (later.event.selfParent = earlier.event.selfParent →
            ∃ a b : Event, later.before.lastSelfEvent = some a ∧ earlier.before.lastSelfEvent = some b ∧
              b.timeCreated.nanos < a.timeCreated.nanos ∧ a.hash = b.hash) := by
  intro creations
  have chained := chained_history creator actions
  refine ⟨chained.names, ?_, ?_⟩
  · apply List.IsChain.imp_of_mem_imp _ chained.linked
    intro later earlier member _ held
    refine ⟨held, ?_⟩
    rw [chained.names later member, lastDescriptor, held]
    rfl
  · have increasing := parents_increase chained.later chained.linked
    apply List.Pairwise.imp_of_mem _ increasing
    intro later earlier memberLater memberEarlier
    rintro ⟨parent, held, before⟩
    have named : later.event.selfParent = some parent.descriptor := by
      rw [chained.names later memberLater, lastDescriptor, held]
      rfl
    refine ⟨?_, by simp [named], ?_⟩
    · intro same
      have impossible := before parent (same ▸ held)
      omega
    · intro same
      rw [named, chained.names earlier memberEarlier, lastDescriptor] at same
      obtain ⟨other, heldEarlier, equal⟩ := Option.map_eq_some_iff.mp same.symm
      exact ⟨parent, other, held, heldEarlier, before other heldEarlier, congrArg EventDescriptor.hash equal.symm⟩

end Creator

end Hashgraph
