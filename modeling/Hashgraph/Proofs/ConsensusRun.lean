import Hashgraph.Proofs.ChildlessTips
import Hashgraph.Proofs.Numbering

/-! Runs of consensus, in which events are ordered and rounds end in any order. The number of an event is kept
until a round ends under whose window the event is ancient, and as long as it is kept the number of a child comes
out higher. A forgotten self-parent does not count: behind it a creator's numbers start anew. -/

namespace Hashgraph

namespace Consensus

inductive Step where
  | order (event : Event)
  | round

def Step.event? : Step → Option Event
  | .order event => some event
  | .round => none

/-- An event that gets no number and a round that fails change nothing. -/
def perform (consensus : Consensus) : Step → Consensus
  | .order event => (consensus.order event).2
  | .round =>
      match consensus.advanceRound with
      | .ok next => next
      | .error _ => consensus

def after (consensus : Consensus) (steps : List Step) : Consensus := steps.foldl perform consensus

def ordered (steps : List Step) : List Event := steps.filterMap Step.event?

theorem after_concat (consensus : Consensus) (steps : List Step) (step : Step) :
    consensus.after (steps ++ [step]) = (consensus.after steps).perform step := by
  simp [after]

theorem perform_round_cases (consensus : Consensus) :
    consensus.perform .round = consensus ∨ consensus.advanceRound = .ok (consensus.perform .round) := by
  simp only [perform]
  split
  · rename_i next advanced
    exact Or.inr advanced
  · exact Or.inl rfl

theorem Orderly.order {consensus : Consensus} (orderly : Orderly consensus) (event : Event) :
    Orderly (consensus.order event).2 := by
  rcases consensus.order_cases event with ⟨nGen, _, done⟩ | ⟨_, failed⟩
  · rw [done]
    exact orderly.enter event nGen
  · rw [failed]
    exact orderly

theorem Orderly.perform {consensus : Consensus} (orderly : Orderly consensus) (step : Step) :
    Orderly (consensus.perform step) := by
  cases step with
  | order event => exact orderly.order event
  | round =>
      rcases consensus.perform_round_cases with same | advanced
      · rw [same]
        exact orderly
      · exact (moved_of_advanceRound advanced).orderly

theorem Orderly.after {consensus : Consensus} (orderly : Orderly consensus) (steps : List Step) :
    Orderly (consensus.after steps) :=
  List.foldlRecOn steps Consensus.perform orderly fun _ held step _ => held.perform step

theorem NumbersBelow.order {consensus : Consensus} {bound : Nat} (below : consensus.NumbersBelow bound)
    (range : bound < UInt64.size) (event : Event) : (consensus.order event).2.NumbersBelow (bound + 1) := by
  obtain ⟨next, found, low⟩ := below.exists_nextNumber range event
  rw [order_of_numbered found]
  exact below.enter (Nat.le_succ bound) event (Nat.lt_succ_of_le low)

theorem NumbersBelow.perform_round {consensus : Consensus} {bound : Nat} (below : consensus.NumbersBelow bound) :
    (consensus.perform .round).NumbersBelow bound := by
  rcases consensus.perform_round_cases with same | advanced
  · rw [same]
    exact below
  · exact (moved_of_advanceRound advanced).numbersBelow below

theorem numbersBelow_after (mode : AncientMode) (rosterSize : UInt64) (steps : List Step)
    (range : (ordered steps).length ≤ UInt64.size) :
    ((start mode rosterSize).after steps).NumbersBelow (ordered steps).length := by
  induction steps using List.reverseRecOn with
  | nil =>
      intro hash entry found
      simp [after, start] at found
  | append_singleton steps step ih =>
      rw [after_concat]
      cases step with
      | order event =>
          have longer : (ordered (steps ++ [.order event])).length = (ordered steps).length + 1 := by
            simp [ordered, Step.event?]
          rw [longer] at range ⊢
          exact (ih (by omega)).order (by omega) event
      | round =>
          have same : ordered (steps ++ [.round]) = ordered steps := by simp [ordered, Step.event?]
          rw [same] at range ⊢
          exact (ih range).perform_round

/-- Steps leave the entry of an event alone until the event is ancient, unless another event has its hash. -/
theorem Orderly.find?_after {consensus : Consensus} (orderly : Orderly consensus) {event : Event}
    {nGen : Generation} (held : consensus.numbers.find? event.hash = some (event.descriptor, nGen))
    (steps : List Step) (apart : ∀ other ∈ ordered steps, other.hash ≠ event.hash)
    (young : .round ∈ steps → (consensus.after steps).window.isAncient event.descriptor = false) :
    (consensus.after steps).numbers.find? event.hash = some (event.descriptor, nGen) := by
  induction steps using List.reverseRecOn with
  | nil => exact held
  | append_singleton steps step ih =>
      have earlierApart : ∀ other ∈ ordered steps, other.hash ≠ event.hash := by
        intro other listed
        apply apart other
        rw [ordered, List.filterMap_append]
        exact List.mem_append_left _ listed
      rw [after_concat] at young ⊢
      cases step with
      | order other =>
          have different : other.hash ≠ event.hash := apart other (by simp [ordered, Step.event?])
          have window : ((consensus.after steps).perform (.order other)).window = (consensus.after steps).window :=
            window_order _ other
          rw [window] at young
          have earlier := ih earlierApart fun turned => young (List.mem_append_left _ turned)
          rcases (consensus.after steps).order_cases other with ⟨_, _, done⟩ | ⟨_, failed⟩
          · rw [Consensus.perform, done]
            simpa only [Consensus.enter, Table.find?_insert, if_neg different] using earlier
          · rw [Consensus.perform, failed]
            exact earlier
      | round =>
          have kept := young (by simp)
          rcases (consensus.after steps).perform_round_cases with same | advanced
          · rw [same] at kept ⊢
            exact ih earlierApart fun _ => kept
          · -- An event that is young behind the round was young before it.
            have moved := moved_of_advanceRound advanced
            have before := (orderly.after steps).isAncient moved kept
            rw [moved.numbers, Table.find?_filter, Option.filter_eq_some_iff]
            exact ⟨ih earlierApart fun _ => before, by simp [kept]⟩

/-- When an event is the self-parent of a later one and has not become ancient by the end of a round in between,
the later event gets a higher number. -/
theorem numbers_rise_from_a_kept_self_parent (mode : AncientMode) (rosterSize : UInt64)
    (before between : List Step) (event child : Event) (own : child.selfParent = some event.descriptor)
    (apart : ∀ other ∈ ordered between, other.hash ≠ event.hash)
    (range : (ordered before).length + (ordered between).length + 1 < UInt64.size) :
    let ready := (start mode rosterSize).after before
    let behind := (ready.order event).2.after between
    (.round ∈ between → behind.window.isAncient event.descriptor = false) →
      ∃ old new, (ready.order event).1 = .ok (event.withNGen old) ∧
        (behind.order child).1 = .ok (child.withNGen new) ∧ old < new := by
  intro ready behind young
  have orderly : Orderly (ready.order event).2 := ((Orderly.start mode rosterSize).after before).order event
  obtain ⟨old, first, _⟩ := (numbersBelow_after mode rosterSize before (by omega)).exists_nextNumber (by omega) event
  have numbered := order_of_numbered first
  have entered : (ready.order event).2.numbers.find? event.hash = some (event.descriptor, old) := by
    rw [numbered, enter, Table.find?_insert, if_pos rfl]
  have kept : behind.numberOf? event.descriptor = some old := by
    have found := orderly.find?_after entered between apart young
    exact congrArg (Option.map Prod.snd) found
  have whole : behind = (start mode rosterSize).after (before ++ .order event :: between) := by
    simp [behind, ready, after, perform]
  have count : (ordered (before ++ .order event :: between)).length =
      (ordered before).length + (ordered between).length + 1 := by
    simp only [ordered, List.filterMap_append, List.length_append, Step.event?, List.filterMap_cons,
      List.length_cons]
    omega
  have below : behind.NumbersBelow ((ordered before).length + (ordered between).length + 1) := by
    rw [whole, ← count]
    exact numbersBelow_after mode rosterSize _ (by omega)
  have named := ChildlessEvents.mem_parents_of_selfParent own
  obtain ⟨new, second, _⟩ := below.exists_nextNumber range child
  exact ⟨old, new, congrArg Prod.fst numbered, congrArg Prod.fst (order_of_numbered second),
    lt_nextNumber second named kept⟩

def soleEvent (selfParent : Option Event) (birthRound : Round) : Event :=
  .unsigned ⟨⟨0⟩, selfParent.map Event.descriptor, [], birthRound, .epoch, []⟩

def firstSole : Event := soleEvent none 1

def agingRounds : List Step := List.replicate 28 .round

theorem numbers_rise_while_the_first_event_is_forgotten :
    let event := soleEvent (some firstSole) 2
    let ready := (start .birthRoundThreshold 1).after [.order firstSole]
    let behind := (ready.order event).2.after agingRounds
    behind.window.isAncient firstSole.descriptor = true ∧
      behind.window.isAncient event.descriptor = false ∧
      ∃ old new, (ready.order event).1 = .ok (event.withNGen old) ∧
        (behind.order (soleEvent (some event) 29)).1 = .ok ((soleEvent (some event) 29).withNGen new) ∧
        old < new := by
  have facts :
      let behind := (((start .birthRoundThreshold 1).after [.order firstSole]).order
        (soleEvent (some firstSole) 2)).2.after agingRounds
      behind.window.isAncient firstSole.descriptor = true ∧
        behind.window.isAncient (soleEvent (some firstSole) 2).descriptor = false := by
    decide +kernel
  have nothing : ordered agingRounds = [] := by decide
  have rises := numbers_rise_from_a_kept_self_parent .birthRoundThreshold 1 [.order firstSole] agingRounds
    (soleEvent (some firstSole) 2) (soleEvent (some (soleEvent (some firstSole) 2)) 29) rfl (by simp [nothing])
    (by rw [nothing]; decide)
  exact ⟨facts.1, facts.2, rises fun _ => facts.2⟩

structure BehindParents (events : List Event) : Prop where
  inOrder : ChildlessEvents.ParentsFirst events
  complete : ∀ event ∈ events, ∀ parent ∈ event.parents, parent ∈ events.map Event.descriptor
  distinct : (events.map Event.hash).Nodup

theorem numbers_fall_behind_a_forgotten_self_parent :
    ¬∀ (mode : AncientMode) (rosterSize : UInt64) (before between : List Step) (event child : Event),
      BehindParents (ordered (before ++ .order event :: between ++ [.order child])) →
        child.selfParent = some event.descriptor → child.creator = event.creator →
          let ready := (start mode rosterSize).after before
          let behind := (ready.order event).2.after between
          ∀ old new, (ready.order event).1 = .ok (event.withNGen old) →
            (behind.order child).1 = .ok (child.withNGen new) → old ≤ new := by
  intro claimed
  have facts :
      let event := soleEvent (some firstSole) 1
      let child := soleEvent (some event) 29
      let events := [firstSole, event, child]
      let ready := (start .birthRoundThreshold 1).after [.order firstSole]
      let behind := (ready.order event).2.after agingRounds
      ordered ([.order firstSole] ++ .order event :: agingRounds ++ [.order child]) = events ∧
        events.Pairwise (fun earlier later => later.descriptor ∉ earlier.parents) ∧
        (∀ event ∈ events, event.descriptor ∉ event.parents) ∧
        (∀ event ∈ events, ∀ parent ∈ event.parents, parent ∈ events.map Event.descriptor) ∧
        (events.map Event.hash).Nodup ∧
        (ready.order event).1 = .ok (event.withNGen 1) ∧ (behind.order child).1 = .ok (child.withNGen 0) := by
    decide +kernel
  obtain ⟨whole, inOrder, apart, complete, distinct, old, new⟩ := facts
  have fed := BehindParents.mk ⟨inOrder, apart⟩ complete distinct
  rw [← whole] at fed
  have fallen := claimed .birthRoundThreshold 1 [.order firstSole] agingRounds _ _ fed rfl rfl 1 0 old new
  exact absurd fallen (by decide)

end Consensus

end Hashgraph
