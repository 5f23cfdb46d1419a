import Hashgraph.Proofs.Holding

/-! The hold buffer as a plain list of waiting events in the order of their arrival. Whatever a buffer goes
through, it holds the events of that list, arranged by their rounds; a window gets the due ones in the same
arrangement, and the count is always that of the held events. -/

namespace Hashgraph

namespace HoldBuffer

inductive Step where
  | add (event : Event)
  | install (window : EventWindow)
  | clear

def Step.added? : Step → Option Event
  | .add event => some event
  | _ => none

def Step.Regular : Step → Prop
  | .install window => window.latestConsensusRound.toNat ≤ 2 ^ 64 - 3
  | _ => True

def perform (buffer : HoldBuffer) : Step → HoldBuffer
  | .add event => (buffer.add event).2
  | .install window => (buffer.setWindow window).2
  | .clear => buffer.clear

def returned (buffer : HoldBuffer) : Step → List Event
  | .add event => buffer.passed event
  | .install window => buffer.released window
  | .clear => []

def after (buffer : HoldBuffer) (steps : List Step) : HoldBuffer := steps.foldl perform buffer

def returns : HoldBuffer → List Step → List Event
  | _, [] => []
  | buffer, step :: rest => buffer.returned step ++ returns (buffer.perform step) rest

theorem after_concat (buffer : HoldBuffer) (steps : List Step) (step : Step) :
    buffer.after (steps ++ [step]) = (buffer.after steps).perform step := by
  simp [after]

theorem returns_concat (buffer : HoldBuffer) (steps : List Step) (step : Step) :
    buffer.returns (steps ++ [step]) = buffer.returns steps ++ (buffer.after steps).returned step := by
  induction steps generalizing buffer with
  | nil => simp [returns, after]
  | cons first rest ih => simp [returns, ih, after]

/-- The window in force, and the waiting events in the order of their arrival. -/
structure Waiting where
  window : EventWindow
  arrivals : List Event

namespace Waiting

def start (mode : AncientMode) : Waiting := ⟨.genesis mode, []⟩

def next (waiting : Waiting) : Step → Waiting
  | .add event =>
      if waiting.window.isAncient event.descriptor = false ∧
          waiting.window.pendingRound < event.birthRound.toNat then
        { waiting with arrivals := waiting.arrivals ++ [event] }
      else waiting
  | .install window =>
      ⟨window, waiting.arrivals.filter fun event => window.pendingRound < event.birthRound.toNat⟩
  | .clear => start waiting.window.mode

def after (waiting : Waiting) (steps : List Step) : Waiting := steps.foldl next waiting

def reached (waiting : Waiting) (window : EventWindow) (ancient : Bool) : List Event :=
  waiting.arrivals.filter fun event =>
    event.birthRound.toNat ≤ window.pendingRound && window.isAncient event.descriptor == ancient

theorem after_concat (waiting : Waiting) (steps : List Step) (step : Step) :
    waiting.after (steps ++ [step]) = (waiting.after steps).next step := by
  simp [after]

end Waiting

def ofRound (round : Round) (events : List Event) : List Event :=
  events.filter fun event => event.birthRound = round

/-- The same events by rising rounds, those of each round in the same order. -/
structure Arranged (arrivals arranged : List Event) : Prop where
  byRound : ByRound arranged
  stable : ∀ round, ofRound round arranged = ofRound round arrivals

theorem ofRound_append (round : Round) (events more : List Event) :
    ofRound round (events ++ more) = ofRound round events ++ ofRound round more :=
  List.filter_append ..

theorem ofRound_filter (round : Round) (accept : Event → Bool) (events : List Event) :
    ofRound round (events.filter accept) = (ofRound round events).filter accept := by
  simp only [ofRound, List.filter_filter, Bool.and_comm]

theorem Arranged.filter {arrivals arranged : List Event} (same : Arranged arrivals arranged)
    (accept : Event → Bool) : Arranged (arrivals.filter accept) (arranged.filter accept) where
  byRound := same.byRound.filter accept
  stable := by
    intro round
    rw [ofRound_filter, ofRound_filter, same.stable]

theorem Arranged.perm {arrivals arranged : List Event} (same : Arranged arrivals arranged) :
    arranged.Perm arrivals := by
  rw [List.perm_iff_count]
  intro event
  have whole : ∀ events : List Event, (ofRound event.birthRound events).count event = events.count event :=
    fun events => List.count_filter (by simp)
  rw [← whole, same.stable, whole]

theorem mem_ofRound {event : Event} {events : List Event} :
    event ∈ ofRound event.birthRound events ↔ event ∈ events := by
  simp [ofRound]

theorem mem_iff_of_ofRound {first second : List Event}
    (same : ∀ round, ofRound round first = ofRound round second) (event : Event) :
    event ∈ first ↔ event ∈ second := by
  rw [← mem_ofRound, same, mem_ofRound]

theorem ByRound.head_le {head : Event} {rest : List Event} (rising : ByRound (head :: rest)) {event : Event}
    (listed : event ∈ head :: rest) : head.birthRound ≤ event.birthRound := by
  rcases List.mem_cons.mp listed with rfl | behind
  · exact UInt64.le_refl _
  · exact List.rel_of_pairwise_cons rising behind

theorem eq_of_ofRound {first second : List Event} (rising : ByRound first) (risingToo : ByRound second)
    (same : ∀ round, ofRound round first = ofRound round second) : first = second := by
  have mem_iff := mem_iff_of_ofRound same
  induction first generalizing second with
  | nil =>
      have empty : second = [] :=
        List.eq_nil_iff_forall_not_mem.mpr fun event listed => List.not_mem_nil ((mem_iff event).mpr listed)
      exact empty.symm
  | cons event rest ih =>
      cases second with
      | nil => exact absurd ((mem_iff event).mp List.mem_cons_self) List.not_mem_nil
      | cons other others =>
          -- Both heads are of the lowest round, so they are the first events of that round.
          have low := rising.head_le ((mem_iff other).mpr List.mem_cons_self)
          have high := risingToo.head_le ((mem_iff event).mp List.mem_cons_self)
          have round : other.birthRound = event.birthRound := UInt64.le_antisymm high low
          have heads := same event.birthRound
          simp only [ofRound, List.filter_cons, round, decide_true, if_true, List.cons.injEq] at heads
          obtain ⟨rfl, tails⟩ := heads
          have rests : ∀ round, ofRound round rest = ofRound round others := by
            intro round
            by_cases own : event.birthRound = round
            · exact own ▸ tails
            · simpa [ofRound, List.filter_cons, own] using same round
          rw [ih rising.of_cons risingToo.of_cons rests (mem_iff_of_ofRound rests)]

theorem Arranged.eq_iff {arrivals arranged : List Event} (same : Arranged arrivals arranged) (events : List Event) :
    events = arranged ↔ Arranged arrivals events := by
  constructor
  · rintro rfl
    exact same
  · intro sameToo
    exact eq_of_ofRound sameToo.byRound same.byRound fun round => (sameToo.stable round).trans (same.stable round).symm

theorem ofRound_insert {held : List Event} (rising : ByRound held) (event : Event) (round : Round) :
    ofRound round (insert event held) = ofRound round (held ++ [event]) := by
  induction held with
  | nil => rfl
  | cons first rest ih =>
      simp only [insert]
      split
      · rename_i below
        by_cases own : event.birthRound = round
        · -- No event of this round is held yet.
          have none : ofRound round (first :: rest) = [] := by
            refine List.filter_eq_nil_iff.mpr ?_
            intro other listed
            have behind : event.birthRound < other.birthRound :=
              UInt64.lt_of_lt_of_le below (rising.head_le listed)
            simpa [← own] using (UInt64.ne_of_lt behind).symm
          rw [ofRound_append, none, List.nil_append, ← List.singleton_append, ofRound_append, none, List.append_nil]
        · simp [ofRound, List.filter_cons, own]
      · simp only [ofRound, List.cons_append, List.filter_cons] at ih ⊢
        rw [ih rising.of_cons]

theorem Arranged.hold {arrivals : List Event} {buffer : HoldBuffer} (same : Arranged arrivals buffer.held)
    (event : Event) : Arranged (arrivals ++ [event]) (buffer.hold event).held where
  byRound := byRound_held _
  stable := by
    intro round
    rw [held_hold, ofRound_insert buffer.byRound_held, ofRound_append, ofRound_append, same.stable]

/-! ### Buffers and lists -/

/-- The gauge shows the count as long as a signed 64-bit number can. -/
structure Refines (waiting : Waiting) (buffer : HoldBuffer) : Prop where
  window : buffer.window = waiting.window
  held : Arranged waiting.arrivals buffer.held
  count : buffer.count = buffer.held.length
  gauge : buffer.held.length < 2 ^ 63 → buffer.gauge = buffer.held.length
  low : buffer.window.pendingRound < UInt64.size

theorem Refines.start (mode : AncientMode) : Refines (.start mode) (.start mode) where
  window := rfl
  held := ⟨List.Pairwise.nil, fun _ => rfl⟩
  count := rfl
  gauge := fun _ => rfl
  low := show 1 < UInt64.size by decide

variable {waiting : Waiting} {buffer : HoldBuffer}

theorem Refines.add (refines : Refines waiting buffer) (event : Event) :
    Refines (waiting.next (.add event)) (buffer.add event).2 := by
  have window := refines.window
  rw [Waiting.next, ← window]
  cases buffer.add_cases event with
  | dropped ancient added =>
      rw [added, if_neg fun waits => by simp [ancient] at waits]
      exact refines
  | passed _ ripe added =>
      rw [added, if_neg fun waits => Nat.not_le.mpr waits.2 ripe]
      exact refines
  | held young early added =>
      rw [added, if_pos ⟨young, early⟩]
      have longer : (buffer.hold event).held.length = buffer.count + 1 := by
        rw [held_hold, (insert_perm event buffer.held).length_eq, refines.count, List.length_cons]
      refine ⟨rfl, refines.held.hold event, longer.symm, ?_, refines.low⟩
      rw [longer]
      intro bound
      change min ((buffer.count + 1 : Nat) : Int) 9223372036854775807 = _
      omega
  | overflow high _ => exact absurd refines.low (Nat.not_lt.mpr high)

theorem Cut.length {window : EventWindow} (cut : Cut buffer window) :
    (buffer.reached window false).length + (buffer.reached window true).length +
        (buffer.setWindow window).2.held.length = buffer.held.length := by
  have whole := congrArg List.length (buffer.byRound_held.cut window.pendingRound)
  have ready := List.length_eq_length_filter_add
    (l := buffer.held.filter fun event => event.birthRound.toNat ≤ window.pendingRound)
    fun event => window.isAncient event.descriptor
  rw [List.length_append] at whole
  rw [reached_eq, reached_eq, cut.held]
  simp only [beq_false, beq_true]
  omega

section Cut

variable {window : EventWindow} (cut : Cut buffer window)

include cut

theorem Refines.passed (refines : Refines waiting buffer) :
    Arranged (waiting.reached window false) (buffer.released window) := by
  rw [cut.released]
  exact refines.held.filter _

theorem Refines.kept (refines : Refines waiting buffer) :
    Arranged (waiting.next (.install window)).arrivals (buffer.setWindow window).2.held := by
  rw [cut.held]
  exact refines.held.filter _

theorem Refines.counted (refines : Refines waiting buffer) :
    (buffer.released window).length + (waiting.reached window true).length +
      (buffer.setWindow window).2.count = buffer.count := by
  have same : (buffer.reached window true).length = (waiting.reached window true).length :=
    (refines.held.filter _).perm.length_eq
  have left := cut.count
  have whole := cut.length
  have exact_ := refines.count
  rw [cut.released]
  omega

theorem Refines.install (refines : Refines waiting buffer) (low : window.pendingRound < UInt64.size) :
    Refines (waiting.next (.install window)) (buffer.setWindow window).2 := by
  have left := cut.count
  have whole := cut.length
  have counted : (buffer.setWindow window).2.count = (buffer.setWindow window).2.held.length := by
    have exact_ := refines.count
    omega
  refine ⟨window_setWindow buffer window, refines.kept cut, counted, ?_, ?_⟩
  · have shown := cut.gauge
    omega
  · rwa [window_setWindow]

end Cut

theorem Refines.perform (refines : Refines waiting buffer) {step : Step} (regular : step.Regular) :
    Refines (waiting.next step) (buffer.perform step) := by
  cases step with
  | add event => exact refines.add event
  | install window =>
      apply refines.install (cut_of_low regular buffer)
      simp only [Step.Regular] at regular
      simp only [EventWindow.pendingRound, UInt64.size]
      omega
  | clear =>
      simp only [HoldBuffer.perform, clear, Waiting.next, refines.window]
      exact .start _

theorem refines_after (mode : AncientMode) (steps : List Step) (regular : ∀ step ∈ steps, step.Regular) :
    Refines ((Waiting.start mode).after steps) ((start mode).after steps) := by
  induction steps using List.reverseRecOn with
  | nil => exact .start mode
  | append_singleton steps step ih =>
      rw [List.forall_mem_append, List.forall_mem_singleton] at regular
      rw [Waiting.after_concat, after_concat]
      exact (ih regular.1).perform regular.2

theorem conveyed_after (mode : AncientMode) (steps : List Step) (regular : ∀ step ∈ steps, step.Regular) :
    Conveyed (steps.filterMap Step.added?) ((start mode).returns steps) ((start mode).after steps) := by
  induction steps using List.reverseRecOn with
  | nil => exact ⟨List.Subperm.refl _, by simp [after, held_start]⟩
  | append_singleton steps step ih =>
      rw [List.forall_mem_append, List.forall_mem_singleton] at regular
      rw [after_concat, returns_concat, List.filterMap_append]
      have conveyed := ih regular.1
      cases step with
      | add event => exact conveyed.add event
      | install window =>
          rw [List.filterMap_cons_none rfl, List.filterMap_nil, List.append_nil]
          exact conveyed.setWindow regular.2
      | clear =>
          rw [List.filterMap_cons_none rfl, List.filterMap_nil, List.append_nil]
          refine ⟨?_, by simp [HoldBuffer.perform, clear, held_start]⟩
          rw [returned, List.append_nil]
          exact (List.Sublist.append_left (List.nil_sublist _) _).subperm.trans conveyed.part

/-- Behind any run a buffer holds just the waiting events, by their rounds and within a round by arrival, and its
count and its gauge show their number. An event passes through just if it is not ancient and its round is
reached. A window gets the waiting events whose round it reaches and that are not ancient under it, in that
arrangement; the others of these rounds are dropped, all later ones are kept, and the count is lowered by just the
number of those given back and dropped. No event is given back more often than it was added. -/
theorem buffers_arrange_what_has_arrived (mode : AncientMode) (steps : List Step)
    (regular : ∀ step ∈ steps, step.Regular) :
    let buffer := (start mode).after steps
    let waiting := (Waiting.start mode).after steps
    (Arranged waiting.arrivals buffer.held ∧ buffer.window = waiting.window ∧
        buffer.count = buffer.held.length ∧ (buffer.held.length < 2 ^ 63 → buffer.gauge = buffer.held.length)) ∧
      (∀ event, (buffer.add event).1 =
        .ok (if waiting.window.isAncient event.descriptor = false ∧
            event.birthRound.toNat ≤ waiting.window.pendingRound then
          some event
        else none)) ∧
      (∀ window : EventWindow, window.latestConsensusRound.toNat ≤ 2 ^ 64 - 3 →
        let next := (buffer.setWindow window).2
        ∃ released, (buffer.setWindow window).1 = .ok released ∧
          (∀ events, events = released ↔ Arranged (waiting.reached window false) events) ∧
          Arranged (waiting.arrivals.filter fun event => window.pendingRound < event.birthRound.toNat) next.held ∧
          released.length + (waiting.reached window true).length + next.count = buffer.count) ∧
      ∀ event, ((start mode).returns steps).count event + buffer.held.count event ≤
        (steps.filterMap Step.added?).count event := by
  intro buffer waiting
  have refines : Refines waiting buffer := refines_after mode steps regular
  refine ⟨⟨refines.held, refines.window, refines.count, refines.gauge⟩, ?_, ?_, ?_⟩
  · intro event
    rw [← refines.window]
    cases buffer.add_cases event with
    | dropped ancient added => simp [added, ancient]
    | passed young ripe added => simp [added, young, ripe]
    | held _ early added => simp [added, Nat.not_le.mpr early]
    | overflow high _ => exact absurd refines.low (Nat.not_lt.mpr high)
  · intro window bound
    have cut := cut_of_low bound buffer
    have outcome := cut.outcome
    rw [← cut.released] at outcome
    exact ⟨_, outcome, (refines.passed cut).eq_iff, refines.kept cut, refines.counted cut⟩
  · intro event
    rw [← List.count_append]
    exact (conveyed_after mode steps regular).part.count_le event

def fallingEvents : Event × Event × Event × Event :=
  (Ancestry.sampleEvent 1 [] 4 0, Ancestry.sampleEvent 2 [] 3 0, Ancestry.sampleEvent 3 [] 4 0,
    Ancestry.sampleEvent 2 [] 2 1)

def fallingSteps : List Step :=
  let (first, second, third, last) := fallingEvents
  [.add first, .install ⟨1, 2, 1, .birthRoundThreshold⟩, .add second, .add third,
    .install ⟨0, 1, 1, .birthRoundThreshold⟩, .add last]

theorem fallingSteps_hold_four_events :
    let (first, second, third, last) := fallingEvents
    let buffer := (start .birthRoundThreshold).after fallingSteps
    let window : EventWindow := ⟨7, 8, 4, .birthRoundThreshold⟩
    Arranged [first, second, third, last] buffer.held ∧ buffer.held = [last, second, first, third] ∧
      buffer.gauge = 4 ∧
      ∃ released, (buffer.setWindow window).1 = .ok released ∧ Arranged [first, third] released ∧
        released.length + 2 + (buffer.setWindow window).2.count = 4 := by
  have facts :
      ((Waiting.start .birthRoundThreshold).after fallingSteps).arrivals =
          [fallingEvents.1, fallingEvents.2.1, fallingEvents.2.2.1, fallingEvents.2.2.2] ∧
        ((Waiting.start .birthRoundThreshold).after fallingSteps).reached ⟨7, 8, 4, .birthRoundThreshold⟩ false =
          [fallingEvents.1, fallingEvents.2.2.1] ∧
        (((Waiting.start .birthRoundThreshold).after fallingSteps).reached ⟨7, 8, 4, .birthRoundThreshold⟩
          true).length = 2 ∧
        ((start .birthRoundThreshold).after fallingSteps).held =
          [fallingEvents.2.2.2, fallingEvents.2.1, fallingEvents.1, fallingEvents.2.2.1] := by
    decide +kernel
  obtain ⟨arrivals, due, overdue, held⟩ := facts
  have regular : ∀ step ∈ fallingSteps, step.Regular := by
    simp [fallingSteps, fallingEvents, Step.Regular]
  obtain ⟨⟨arranged, _, count, gauge⟩, _, released, _⟩ :=
    buffers_arrange_what_has_arrived .birthRoundThreshold fallingSteps regular
  obtain ⟨given, outcome, exact_, _, counted⟩ := released ⟨7, 8, 4, .birthRoundThreshold⟩ (by decide)
  rw [arrivals] at arranged
  rw [held] at gauge count
  rw [due] at exact_
  rw [overdue, count] at counted
  exact ⟨arranged, held, gauge (by decide), given, outcome, (exact_ _).mp rfl, counted⟩

end HoldBuffer

end Hashgraph
