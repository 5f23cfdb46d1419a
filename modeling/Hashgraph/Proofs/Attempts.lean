import Hashgraph.Proofs.AncestryRun
import Hashgraph.Proofs.ParentChoice

/-! What one attempt does to a creator: it either makes one event on a parent that it may take, or leaves all
but the random state and the counters alone. -/

namespace Hashgraph

/-- The first nanosecond behind those of an event: it has one for each transaction, and one if it has none. -/
def Event.finish (event : Event) : Int := event.timeCreated.nanos + (max event.transactions.length 1 : Nat)

theorem Event.start_lt_finish (event : Event) : event.timeCreated.nanos < event.finish := by
  unfold Event.finish
  omega

def Attempt.event? {σ : Type} (attempt : Attempt σ) : Option Event := attempt.outcome.toOption.join

theorem Attempt.event?_eq_some {σ : Type} {attempt : Attempt σ} {event : Event} :
    attempt.event? = some event ↔ attempt.outcome = .ok (some event) := by
  unfold Attempt.event?
  cases attempt.outcome <;> simp [Except.toOption]

namespace Creator

/-- States that differ in their random state and their counters at most. -/
structure Agrees (before after : Creator) : Prop where
  seat : after.seat = before.seat
  mode : after.mode = before.mode
  factor : after.factor = before.factor
  ancestry : after.ancestry = before.ancestry
  childless : after.childless = before.childless
  progress : after.progress = before.progress
  lastSelfEvent : after.lastSelfEvent = before.lastSelfEvent

theorem Agrees.refl (creator : Creator) : Agrees creator creator := ⟨rfl, rfl, rfl, rfl, rfl, rfl, rfl⟩

def nextContent (creator : Creator) (otherParents : List EventDescriptor) (time : Instant)
    (transactions : List Transaction) : EventContent :=
  ⟨creator.seat.node, creator.lastDescriptor, otherParents, creator.nextBirthRound, time, transactions⟩

def nextGeneration? (creator : Creator) (other : Option Event) : Option Generation :=
  Hashgraph.nextGeneration? (creator.lastDescriptor.toList ++ (other.map Event.descriptor).toList)

def nextAncient? (creator : Creator) (other : Option Event) : Option Bool :=
  (creator.nextGeneration? other).map fun generation =>
    creator.window.isAncientIndicator (creator.nextIndicator generation)

def nextEvent? {σ : Type} (creator : Creator) (surroundings : Surroundings σ) (time : Instant) (supply : σ)
    (other : Option Event) : Option Event :=
  Event.ofContent? (creator.nextContent (other.map Event.descriptor).toList time (surroundings.take supply).1)
    surroundings.sign

def nextEvent {σ : Type} (creator : Creator) (surroundings : Surroundings σ) (time : Instant) (supply : σ)
    (other : Option Event) : Event :=
  Event.ofContent (creator.nextContent (other.map Event.descriptor).toList time (surroundings.take supply).1)
    ((creator.nextGeneration? other).getD firstGeneration) surroundings.sign

def outcomeOn {σ : Type} (creator : Creator) (surroundings : Surroundings σ) (time : Instant) (supply : σ)
    (other : Option Event) : Except CreationError (Option Event) :=
  match creator.nextEvent? surroundings time supply other with
  | none => .error .outOfRange
  | some event => .ok (if creator.window.isAncient event.descriptor then none else some event)

structure Made {σ : Type} (before : Creator) (surroundings : Surroundings σ) (now : Instant)
    (other : Option Event) (event : Event) : Prop where
  fresh : before.nextAncient? other = some false
  content : ∃ time transactions generation, before.nextTime? now = some time ∧
    before.nextGeneration? other = some generation ∧
    event = Event.ofContent
      (before.nextContent (other.map Event.descriptor).toList time transactions) generation surroundings.sign

structure Extended (before : Creator) (event : Event) (after : Creator) : Prop where
  seat : after.seat = before.seat
  mode : after.mode = before.mode
  factor : after.factor = before.factor
  ancestry : after.ancestry =
    (before.ancestry.addSelfEvent before.seat.roster event.descriptor event.parents).2
  childless : after.childless = before.childless.retire event.otherParents
  lastSelfEvent : after.lastSelfEvent = some event
  recorded : ∃ step, before.progress.record? before.seat after.ancestry before.childless event.descriptor =
    some step ∧ after.progress = step.progress

inductive MayBuildOn (creator : Creator) : Option Event → Prop
  | alone : creator.seat.roster.size = 1 → MayBuildOn creator creator.lastSelfEvent
  | candidate {parent} : creator.seat.roster.size ≠ 1 → parent ∈ creator.childless.events →
      (creator.gain parent).isNonZero = true → MayBuildOn creator (some parent)
  | first : creator.seat.roster.size ≠ 1 → creator.mayStart = true →
      (∀ event ∈ creator.childless.events, (creator.gain event).isNonZero = false) → MayBuildOn creator none

section Made

variable {σ : Type} {before : Creator} {surroundings : Surroundings σ} {now : Instant} {other : Option Event}
  {event : Event}

theorem Made.selfParent (made : Made before surroundings now other event) :
    event.selfParent = before.lastDescriptor := by
  obtain ⟨_, _, _, _, _, rfl⟩ := made.content
  rfl

theorem Made.otherParents (made : Made before surroundings now other event) :
    event.otherParents = (other.map Event.descriptor).toList := by
  obtain ⟨_, _, _, _, _, rfl⟩ := made.content
  rfl

theorem Made.parents (made : Made before surroundings now other event) :
    event.parents = before.lastDescriptor.toList ++ (other.map Event.descriptor).toList := by
  obtain ⟨_, _, _, _, _, rfl⟩ := made.content
  rfl

theorem Made.creator (made : Made before surroundings now other event) :
    event.descriptor.creator = before.seat.node := by
  obtain ⟨_, _, _, _, _, rfl⟩ := made.content
  rfl

theorem Made.nGen (made : Made before surroundings now other event) : event.nGen = none := by
  obtain ⟨_, _, _, _, _, rfl⟩ := made.content
  rfl

theorem Made.graded (made : Made before surroundings now other event) :
    before.nextGeneration? other = some event.generation := by
  obtain ⟨_, _, _, _, graded, rfl⟩ := made.content
  exact graded

theorem Made.spaced (made : Made before surroundings now other event) {last : Event}
    (held : before.lastSelfEvent = some last) :
    last.finish ≤ event.timeCreated.nanos := by
  obtain ⟨time, _, _, found, _, rfl⟩ := made.content
  change last.finish ≤ time.nanos
  simp only [nextTime?, held, Option.map_eq_some_iff] at found
  obtain ⟨moved, reached, latest⟩ := found
  have exact_ : moved.nanos = last.finish := Instant.ofNanos?_eq_some.mp reached
  rw [← exact_, ← latest, Instant.later]
  split
  · exact Int.le_refl _
  · omega

end Made

theorem isAncientIndicator_eq_false_iff (window : EventWindow) (indicator : UInt64) :
    window.isAncientIndicator indicator = false ↔ window.ancientThreshold ≤ indicator := by
  simp [EventWindow.isAncientIndicator]

theorem young_behind {window : EventWindow} (generations : window.mode = .generationThreshold)
    {parents : List EventDescriptor} {parent : EventDescriptor} (named : parent ∈ parents)
    (young : window.isAncient parent = false) {generation : Generation}
    (graded : Hashgraph.nextGeneration? parents = some generation) :
    window.isAncientIndicator generation = false := by
  rw [EventWindow.isAncient, generations, isAncientIndicator_eq_false_iff] at young
  rw [isAncientIndicator_eq_false_iff]
  exact UInt64.le_trans young (UInt64.le_of_lt (generation_lt_nextGeneration graded named))

/-! ### One attempt -/

theorem addSelfEvent_of_unknown {ancestry : Ancestry} {roster : Roster} {descriptor : EventDescriptor}
    {parents : List EventDescriptor}
    (unknown : (ancestry.addSelfEvent roster descriptor parents).2.tipset? descriptor = none) :
    (ancestry.addSelfEvent roster descriptor parents).2 = ancestry := by
  simp only [Ancestry.addSelfEvent, Ancestry.tipset?_store] at unknown ⊢
  unfold Ancestry.store
  split
  · rfl
  · rename_i kept
    simp [kept] at unknown

theorem commit_cases {σ : Type} (creator : Creator) (supply : σ) (event : Event) :
    ((creator.commit supply event).outcome = .ok (some event) ∧
        Extended creator event (creator.commit supply event).creator ∧
        ∃ ratio, (creator.commit supply event).creator.counters =
          creator.counters.recordCreated event.parents.isEmpty ratio) ∨
      ((∃ fault, (creator.commit supply event).outcome = .error fault) ∧
        Agrees creator (creator.commit supply event).creator ∧
        (creator.ancestry.addSelfEvent creator.seat.roster event.descriptor event.parents).2.tipset?
          event.descriptor = none ∧
        (creator.commit supply event).creator.counters = creator.counters) := by
  have genesis : event.parents.isEmpty = (event.selfParent.isNone && event.otherParents.isEmpty) := by
    simp only [Event.parents, EventContent.parents, Event.selfParent, Event.otherParents]
    cases event.content.selfParent <;> rfl
  unfold commit
  cases found : creator.progress.record? creator.seat
      (creator.ancestry.addSelfEvent creator.seat.roster event.descriptor event.parents).2 creator.childless
      event.descriptor with
  | some step =>
      refine Or.inl ⟨by simp only [found], ?_, creator.advancementRatio step.improvement, ?_⟩
      · simp only [found]
        exact ⟨rfl, rfl, rfl, rfl, rfl, rfl, step, found, rfl⟩
      · simp only [found, genesis]
  | none =>
      have unknown := Option.map_eq_none_iff.mp found
      refine Or.inr ⟨⟨.untracked event.descriptor, by simp only [found]⟩, ?_, unknown, by simp only [found]⟩
      simp only [found]
      exact ⟨rfl, rfl, rfl, addSelfEvent_of_unknown unknown, rfl, rfl, rfl⟩

inductive Built {σ : Type} (creator : Creator) (surroundings : Surroundings σ) (now : Instant)
    (other : Option Event) (attempt : Attempt σ) : Prop
  | exhausted : creator.nextGeneration? other = none → attempt.outcome = .error .outOfRange →
      Agrees creator attempt.creator → attempt.creator.counters = creator.counters →
      Built creator surroundings now other attempt
  | ancient : creator.nextAncient? other = some true → attempt.outcome = .ok none → Agrees creator attempt.creator →
      attempt.creator.counters = creator.counters.recordRefusedAncient →
      Built creator surroundings now other attempt
  | failed (fault : CreationError) : creator.nextAncient? other = some false →
      attempt.outcome = .error fault → Agrees creator attempt.creator →
      attempt.creator.counters = creator.counters → Built creator surroundings now other attempt
  | made (event : Event) (ratio : Float) : Made creator surroundings now other event →
      attempt.outcome = .ok (some event) → Extended creator event attempt.creator →
      attempt.creator.counters = creator.counters.recordCreated event.parents.isEmpty ratio →
      Built creator surroundings now other attempt

theorem build_of_exhausted {σ : Type} {creator : Creator} {other : Option Event}
    (exhausted : creator.nextGeneration? other = none) (surroundings : Surroundings σ) (now : Instant) (supply : σ) :
    creator.build surroundings now supply other = ⟨.error .outOfRange, creator, supply⟩ := by
  rw [nextGeneration?] at exhausted
  simp only [build, exhausted]

theorem build_of_graded {σ : Type} {creator : Creator} {other : Option Event} {generation : Generation}
    (graded : creator.nextGeneration? other = some generation) (surroundings : Surroundings σ) (now : Instant)
    (supply : σ) :
    creator.build surroundings now supply other =
      if creator.window.isAncientIndicator (creator.nextIndicator generation) then
        ⟨.ok none, { creator with counters := creator.counters.recordRefusedAncient }, supply⟩
      else
        match creator.nextTime? now with
        | none => ⟨.error .outOfRange, creator, supply⟩
        | some time =>
            creator.commit (surroundings.take supply).2
              (Event.ofContent
                (creator.nextContent (other.map Event.descriptor).toList time (surroundings.take supply).1)
                generation surroundings.sign) := by
  rw [nextGeneration?] at graded
  simp only [build, graded]
  rfl

theorem nextAncient_of_graded {creator : Creator} {other : Option Event} {generation : Generation}
    (graded : creator.nextGeneration? other = some generation) :
    creator.nextAncient? other = some (creator.window.isAncientIndicator (creator.nextIndicator generation)) := by
  rw [nextAncient?, graded, Option.map_some]

theorem nextIndicator_young {creator : Creator} (sameMode : creator.window.mode = creator.mode)
    (generations : creator.mode = .generationThreshold) {parent : Event}
    (young : creator.window.isAncient parent.descriptor = false) {generation : Generation}
    (graded : creator.nextGeneration? (some parent) = some generation) :
    creator.window.isAncientIndicator (creator.nextIndicator generation) = false := by
  rw [nextIndicator, generations]
  exact young_behind (sameMode.trans generations)
    (List.mem_append_right _ (List.mem_singleton_self parent.descriptor)) young graded

theorem build_built {σ : Type} (creator : Creator) (surroundings : Surroundings σ) (now : Instant) (supply : σ)
    (other : Option Event) :
    Built creator surroundings now other (creator.build surroundings now supply other) := by
  cases graded : creator.nextGeneration? other with
  | none =>
      rw [build_of_exhausted graded]
      exact .exhausted graded rfl (.refl creator) rfl
  | some generation =>
      have age := nextAncient_of_graded graded
      rw [build_of_graded graded]
      split
      · rename_i old
        exact .ancient (age.trans (congrArg some old)) rfl ⟨rfl, rfl, rfl, rfl, rfl, rfl, rfl⟩ rfl
      rename_i young
      rw [Bool.not_eq_true] at young
      have fresh := age.trans (congrArg some young)
      split
      · exact .failed _ fresh rfl (.refl creator) rfl
      · rename_i time found
        generalize planned : Event.ofContent _ generation surroundings.sign = event
        rcases creator.commit_cases (surroundings.take supply).2 event with
          ⟨created, extended, ratio, counted⟩ | ⟨⟨fault, failed⟩, agrees, _, same⟩
        · exact .made event ratio ⟨fresh, time, _, generation, found, graded, planned.symm⟩ created extended counted
        · exact .failed fault fresh failed agrees same

theorem build_cases {σ : Type} (creator : Creator) (surroundings : Surroundings σ) (now : Instant) (supply : σ)
    (other : Option Event) :
    let attempt := creator.build surroundings now supply other
    (∃ event, attempt.outcome = .ok (some event) ∧ Made creator surroundings now other event ∧
        Extended creator event attempt.creator) ∨
      ((∀ event, attempt.outcome ≠ .ok (some event)) ∧ Agrees creator attempt.creator) := by
  cases creator.build_built surroundings now supply other with
  | exhausted _ stopped agrees _ => exact Or.inr ⟨by simp [stopped], agrees⟩
  | ancient _ refused agrees _ => exact Or.inr ⟨by simp [refused], agrees⟩
  | failed fault _ failed agrees _ => exact Or.inr ⟨by simp [failed], agrees⟩
  | made event _ made created extended _ => exact Or.inl ⟨event, created, made, extended⟩

theorem isAncient_nextContent {creator : Creator} (sameMode : creator.window.mode = creator.mode)
    (otherParents : List EventDescriptor) (time : Instant) (transactions : List Transaction)
    (generation : Generation) :
    creator.window.isAncient ((creator.nextContent otherParents time transactions).describe generation) =
      creator.window.isAncientIndicator (creator.nextIndicator generation) := by
  rw [EventWindow.isAncient, sameMode, nextIndicator]
  cases creator.mode <;> rfl

theorem Made.young {σ : Type} {before : Creator} {surroundings : Surroundings σ} {now : Instant}
    {other : Option Event} {event : Event} (made : Made before surroundings now other event)
    (sameMode : before.window.mode = before.mode) : before.window.isAncient event.descriptor = false := by
  obtain ⟨_, _, _, _, graded, rfl⟩ := made.content
  have age := (nextAncient_of_graded graded).symm.trans made.fresh
  exact (isAncient_nextContent sameMode _ _ _ _).trans (Option.some_inj.mp age)

theorem nextEvent?_of_graded {σ : Type} {creator : Creator} {other : Option Event} {generation : Generation}
    (graded : creator.nextGeneration? other = some generation) (surroundings : Surroundings σ) (time : Instant)
    (supply : σ) :
    creator.nextEvent? surroundings time supply other = some (creator.nextEvent surroundings time supply other) := by
  have parents : Hashgraph.nextGeneration?
      (creator.nextContent (other.map Event.descriptor).toList time (surroundings.take supply).1).parents =
        some generation := graded
  rw [nextEvent?, Event.ofContent?, parents, nextEvent, graded]
  rfl

theorem outcomeOn_of_graded {σ : Type} {creator : Creator} {other : Option Event} {generation : Generation}
    (graded : creator.nextGeneration? other = some generation) (surroundings : Surroundings σ) (time : Instant)
    (supply : σ) :
    let event := creator.nextEvent surroundings time supply other
    creator.outcomeOn surroundings time supply other =
      .ok (if creator.window.isAncient event.descriptor then none else some event) := by
  simp only [outcomeOn, nextEvent?_of_graded graded]

theorem outcomeOn_of_exhausted {σ : Type} {creator : Creator} {other : Option Event}
    (exhausted : creator.nextGeneration? other = none) (surroundings : Surroundings σ) (time : Instant)
    (supply : σ) : creator.outcomeOn surroundings time supply other = .error .outOfRange := by
  have parents : Hashgraph.nextGeneration?
      (creator.nextContent (other.map Event.descriptor).toList time (surroundings.take supply).1).parents = none :=
    exhausted
  simp only [outcomeOn, nextEvent?, Event.ofContent?, parents, Option.map_none]

theorem build_outcome {σ : Type} {creator : Creator} (sameMode : creator.window.mode = creator.mode)
    (surroundings : Surroundings σ) {now time : Instant} (timed : creator.nextTime? now = some time) (supply : σ)
    (other : Option Event) :
    (creator.build surroundings now supply other).outcome = creator.outcomeOn surroundings time supply other := by
  cases graded : creator.nextGeneration? other with
  | none => rw [build_of_exhausted graded, outcomeOn_of_exhausted graded]
  | some generation =>
      rw [outcomeOn_of_graded graded, build_of_graded graded]
      generalize planned : creator.nextEvent surroundings time supply other = event
      rw [nextEvent, graded, Option.getD_some] at planned
      have age : creator.window.isAncient event.descriptor =
          creator.window.isAncientIndicator (creator.nextIndicator generation) := by
        rw [← planned]
        exact isAncient_nextContent sameMode _ _ _ _
      cases ancient : creator.window.isAncient event.descriptor with
      | true => simp [← age, ancient]
      | false =>
          simp only [← age, ancient, timed, planned, Bool.false_eq_true, if_false]
          rcases creator.commit_cases (surroundings.take supply).2 event with ⟨created, _⟩ | ⟨_, _, unknown, _⟩
          · exact created
          · have young : creator.ancestry.window.isAncient event.descriptor = false := ancient
            simp [Ancestry.addSelfEvent, Ancestry.tipset?_store, young] at unknown

theorem whenCreated_outcome {σ : Type} (attempt : Attempt σ) (change : CreationCounters → CreationCounters) :
    (Attempt.whenCreated attempt change).outcome = attempt.outcome := by
  unfold Attempt.whenCreated
  split <;> rfl

theorem whenCreated_agrees {σ : Type} (attempt : Attempt σ) (change : CreationCounters → CreationCounters) :
    Agrees attempt.creator (Attempt.whenCreated attempt change).creator := by
  unfold Attempt.whenCreated
  split <;> exact ⟨rfl, rfl, rfl, rfl, rfl, rfl, rfl⟩

theorem Agrees.trans {a b c : Creator} (first : Agrees a b) (second : Agrees b c) : Agrees a c where
  seat := second.seat.trans first.seat
  mode := second.mode.trans first.mode
  factor := second.factor.trans first.factor
  ancestry := second.ancestry.trans first.ancestry
  childless := second.childless.trans first.childless
  progress := second.progress.trans first.progress
  lastSelfEvent := second.lastSelfEvent.trans first.lastSelfEvent

theorem Extended.agrees {before after later : Creator} {event : Event} (extended : Extended before event after)
    (same : Agrees after later) : Extended before event later where
  seat := same.seat.trans extended.seat
  mode := same.mode.trans extended.mode
  factor := same.factor.trans extended.factor
  ancestry := same.ancestry.trans extended.ancestry
  childless := same.childless.trans extended.childless
  lastSelfEvent := same.lastSelfEvent.trans extended.lastSelfEvent
  recorded := by
    obtain ⟨step, found, progress⟩ := extended.recorded
    exact ⟨step, by rw [same.ancestry, found], same.progress.trans progress⟩

theorem Agrees.nextContent {before after : Creator} (same : Agrees before after) :
    after.nextContent = before.nextContent := by
  funext otherParents time transactions
  simp [Creator.nextContent, lastDescriptor, nextBirthRound, window, same.seat, same.mode, same.ancestry,
    same.lastSelfEvent]

theorem Agrees.nextGeneration? {before after : Creator} (same : Agrees before after) (other : Option Event) :
    after.nextGeneration? other = before.nextGeneration? other := by
  simp only [Creator.nextGeneration?, lastDescriptor, same.lastSelfEvent]

theorem Agrees.ancientIndicator {before after : Creator} (same : Agrees before after) (generation : Generation) :
    after.window.isAncientIndicator (after.nextIndicator generation) =
      before.window.isAncientIndicator (before.nextIndicator generation) := by
  simp only [nextIndicator, nextBirthRound, window, same.mode, same.ancestry]

theorem Agrees.nextAncient? {before after : Creator} (same : Agrees before after) (other : Option Event) :
    after.nextAncient? other = before.nextAncient? other := by
  simp only [Creator.nextAncient?, same.nextGeneration?, same.ancientIndicator]

theorem Agrees.nextEvent? {σ : Type} {before after : Creator} (same : Agrees before after)
    (surroundings : Surroundings σ) (time : Instant) (supply : σ) (other : Option Event) :
    after.nextEvent? surroundings time supply other = before.nextEvent? surroundings time supply other := by
  simp only [Creator.nextEvent?, same.nextContent]

theorem Agrees.outcomeOn {σ : Type} {before after : Creator} (same : Agrees before after)
    (surroundings : Surroundings σ) (time : Instant) (supply : σ) (other : Option Event) :
    after.outcomeOn surroundings time supply other = before.outcomeOn surroundings time supply other := by
  simp only [Creator.outcomeOn, same.nextEvent?, window, same.ancestry]
  cases before.nextEvent? surroundings time supply other <;> rfl

theorem Agrees.nextTime? {before after : Creator} (same : Agrees before after) (now : Instant) :
    after.nextTime? now = before.nextTime? now := by
  simp [Creator.nextTime?, same.lastSelfEvent]

theorem Made.of_agrees {σ : Type} {before after : Creator} {surroundings : Surroundings σ} {now : Instant}
    {other : Option Event} {event : Event} (made : Made after surroundings now other event)
    (same : Agrees before after) : Made before surroundings now other event where
  fresh := (same.nextAncient? other).symm.trans made.fresh
  content := by
    obtain ⟨time, transactions, generation, found, graded, content⟩ := made.content
    rw [same.nextTime?] at found
    rw [same.nextGeneration?] at graded
    rw [same.nextContent] at content
    exact ⟨time, transactions, generation, found, graded, content⟩

theorem Extended.of_agrees {before after later : Creator} {event : Event} (extended : Extended after event later)
    (same : Agrees before after) : Extended before event later where
  seat := extended.seat.trans same.seat
  mode := extended.mode.trans same.mode
  factor := extended.factor.trans same.factor
  ancestry := by rw [extended.ancestry, same.ancestry, same.seat]
  childless := by rw [extended.childless, same.childless]
  lastSelfEvent := extended.lastSelfEvent
  recorded := by
    obtain ⟨step, found, progress⟩ := extended.recorded
    rw [same.progress, same.seat, same.childless] at found
    exact ⟨step, found, progress⟩

theorem follow_cases {σ : Type} (creator : Creator) (surroundings : Surroundings σ) (now : Instant) (supply : σ)
    (choice : ParentChoice) :
    (∃ parent, choice.parent? = some parent ∧
        (creator.follow surroundings now supply choice).outcome =
          (creator.build surroundings now supply (some parent)).outcome ∧
        Agrees (creator.build surroundings now supply (some parent)).creator
          (creator.follow surroundings now supply choice).creator) ∨
      (choice.parent? = none ∧ creator.mayStart = true ∧
        creator.follow surroundings now supply choice = creator.build surroundings now supply none) ∨
      (choice.parent? = none ∧ creator.mayStart = false ∧
        (creator.follow surroundings now supply choice).outcome = .ok none ∧
        Agrees creator (creator.follow surroundings now supply choice).creator) := by
  cases choice with
  | pity parent => exact Or.inl ⟨parent, rfl, whenCreated_outcome _ _, whenCreated_agrees _ _⟩
  | best parent => exact Or.inl ⟨parent, rfl, whenCreated_outcome _ _, whenCreated_agrees _ _⟩
  | nothing =>
      cases starts : creator.mayStart with
      | true => exact Or.inr (Or.inl ⟨rfl, rfl, by simp [follow, starts]⟩)
      | false =>
          refine Or.inr (Or.inr ⟨rfl, rfl, by simp [follow, starts], ?_⟩)
          simp only [follow, starts]
          exact ⟨rfl, rfl, rfl, rfl, rfl, rfl, rfl⟩

def drawn (creator : Creator) : Creator :=
  { creator with
    counters := creator.counters.setMaxSelfishness creator.progress.maxScore
    random := (creator.chooseParent creator.random).2 }

theorem agrees_drawn (creator : Creator) : Agrees creator creator.drawn := ⟨rfl, rfl, rfl, rfl, rfl, rfl, rfl⟩

theorem attempt_of_several {σ : Type} {creator : Creator} (several : creator.seat.roster.size ≠ 1)
    (surroundings : Surroundings σ) (now : Instant) (supply : σ) :
    creator.attempt surroundings now supply =
      creator.drawn.follow surroundings now supply (creator.chooseParent creator.random).1 := by
  simp only [attempt, several, if_false, chooseParent_counters, drawn]

theorem attempt_builds {σ : Type} (creator : Creator) (surroundings : Surroundings σ) (now : Instant)
    (supply : σ) :
    let attempt := creator.attempt surroundings now supply
    (∃ drawn other, Agrees creator drawn ∧ MayBuildOn creator other ∧
        attempt.outcome = (drawn.build surroundings now supply other).outcome ∧
        Agrees (drawn.build surroundings now supply other).creator attempt.creator) ∨
      ((∀ other, ¬MayBuildOn creator other) ∧ attempt.outcome = .ok none ∧ Agrees creator attempt.creator) := by
  intro attempt
  by_cases alone : creator.seat.roster.size = 1
  · have single : attempt = creator.build surroundings now supply creator.lastSelfEvent := by
      simp [attempt, Creator.attempt, alone]
    refine Or.inl ⟨creator, creator.lastSelfEvent, .refl creator, .alone alone, ?_, ?_⟩
    · rw [single]
    · rw [single]
      exact .refl _
  · have followed : attempt = creator.drawn.follow surroundings now supply (creator.chooseParent creator.random).1 :=
      attempt_of_several alone surroundings now supply
    rw [followed]
    rcases creator.drawn.follow_cases surroundings now supply (creator.chooseParent creator.random).1 with
      ⟨parent, chosen, outcome, same⟩ | ⟨missing, starts, first⟩ | ⟨missing, refused, outcome, same⟩
    · obtain ⟨listed, gains⟩ := chooseParent_some chosen
      exact Or.inl ⟨creator.drawn, some parent, creator.agrees_drawn, .candidate alone listed gains, outcome, same⟩
    · rw [first]
      exact Or.inl ⟨creator.drawn, none, creator.agrees_drawn, .first alone starts (chooseParent_none missing), rfl,
        .refl _⟩
    · have nobody := chooseParent_none missing
      have mayNot : creator.mayStart = false := refused
      refine Or.inr ⟨?_, outcome, creator.agrees_drawn.trans same⟩
      intro other may
      cases may with
      | alone single => exact alone single
      | candidate _ listed gains => exact Bool.noConfusion ((nobody _ listed).symm.trans gains)
      | first _ starts _ => simp [mayNot] at starts

/-- Within the calendar, an attempt makes the planned event on a parent that it may take, unless that would be
ancient or above the last generation, and nothing if there is no such parent. -/
theorem attempt_outcome {σ : Type} {creator : Creator} (sameMode : creator.window.mode = creator.mode)
    (surroundings : Surroundings σ) {now time : Instant} (timed : creator.nextTime? now = some time) (supply : σ) :
    (∃ other, MayBuildOn creator other ∧
        (creator.attempt surroundings now supply).outcome = creator.outcomeOn surroundings time supply other) ∨
      ((∀ other, ¬MayBuildOn creator other) ∧ (creator.attempt surroundings now supply).outcome = .ok none) := by
  rcases creator.attempt_builds surroundings now supply with
    ⟨drawn, other, unchanged, may, outcome, _⟩ | ⟨nobody, outcome, _⟩
  · have drawnMode : drawn.window.mode = drawn.mode := by
      rw [window, unchanged.ancestry, unchanged.mode]
      exact sameMode
    have built := build_outcome drawnMode surroundings ((unchanged.nextTime? now).trans timed) supply other
    exact Or.inl ⟨other, may, outcome.trans (built.trans (unchanged.outcomeOn surroundings time supply other))⟩
  · exact Or.inr ⟨nobody, outcome⟩

/-- An attempt has made an event on a parent that it may take, or has changed nothing that matters later. -/
theorem attempt_cases {σ : Type} (creator : Creator) (surroundings : Surroundings σ) (now : Instant)
    (supply : σ) :
    let attempt := creator.attempt surroundings now supply
    (∃ other event, attempt.outcome = .ok (some event) ∧ MayBuildOn creator other ∧
        Made creator surroundings now other event ∧ Extended creator event attempt.creator) ∨
      ((∀ event, attempt.outcome ≠ .ok (some event)) ∧ Agrees creator attempt.creator) := by
  intro attempt
  rcases creator.attempt_builds surroundings now supply with
    ⟨drawn, other, unchanged, may, outcome, same⟩ | ⟨_, outcome, same⟩
  · rcases drawn.build_cases surroundings now supply other with
      ⟨event, created, made, extended⟩ | ⟨refused, agrees⟩
    · exact Or.inl ⟨other, event, outcome.trans created, may, made.of_agrees unchanged,
        (extended.agrees same).of_agrees unchanged⟩
    · refine Or.inr ⟨?_, (unchanged.trans agrees).trans same⟩
      intro event created
      exact refused event (outcome.symm.trans created)
  · exact Or.inr ⟨by simp [attempt, outcome], same⟩

end Creator

end Hashgraph
