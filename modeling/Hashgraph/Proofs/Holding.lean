import Mathlib.Algebra.Ring.Nat
import Mathlib.Data.List.Perm.Subperm
import Hashgraph.Node.HoldBuffer
import Hashgraph.Proofs.ChildlessTips

/-! What the hold buffer lets go of. Held events stand by their rounds, and a window takes the front of them; no
event overtakes its parents, as long as rounds rise from parents to children. -/

namespace Hashgraph

/-- The round that comes to consensus next, as a number: it can lie behind the last round. -/
def EventWindow.pendingRound (window : EventWindow) : Nat := window.latestConsensusRound.toNat + 1

theorem EventWindow.pendingRound?_eq_some_iff {window : EventWindow} {pending : Round} :
    window.pendingRound? = some pending ↔ pending.toNat = window.pendingRound :=
  checkedAdd_eq_some_iff

theorem EventWindow.pendingRound?_eq_none_iff {window : EventWindow} :
    window.pendingRound? = none ↔ UInt64.size ≤ window.pendingRound :=
  checkedAdd_eq_none_iff

namespace HoldBuffer

open ChildlessEvents (ParentsFirst)

theorem cutoff?_eq_some_iff {window : EventWindow} {cutoff : Round} :
    cutoff? window = some cutoff ↔ cutoff.toNat = window.pendingRound + 1 := by
  have range := cutoff.toNat_lt_size
  rw [cutoff?, Option.bind_eq_some_iff]
  simp only [EventWindow.pendingRound?_eq_some_iff, checkedAdd_eq_some_iff, UInt64.toNat_one]
  constructor
  · rintro ⟨pending, found, above⟩
    omega
  · intro above
    have fits : window.pendingRound < UInt64.size := by omega
    exact ⟨UInt64.ofNatLT window.pendingRound fits, UInt64.toNat_ofNatLT .., by rw [UInt64.toNat_ofNatLT, above]⟩

theorem cutoff?_eq_none_iff {window : EventWindow} :
    cutoff? window = none ↔ 2 ^ 64 - 3 < window.latestConsensusRound.toNat := by
  rw [Option.eq_none_iff_forall_ne_some]
  simp only [Ne, cutoff?_eq_some_iff, EventWindow.pendingRound]
  constructor
  · intro missing
    by_contra low
    have fits : window.latestConsensusRound.toNat + 2 < UInt64.size := by
      simp only [UInt64.size]
      omega
    exact missing (UInt64.ofNatLT _ fits) (UInt64.toNat_ofNatLT ..)
  · intro high cutoff found
    have range := cutoff.toNat_lt_size
    simp only [UInt64.size] at range
    omega

def held (buffer : HoldBuffer) : List Event := buffer.queues.events

def passed (buffer : HoldBuffer) (event : Event) : List Event := (buffer.add event).1.toOption.join.toList

def released (buffer : HoldBuffer) (window : EventWindow) : List Event :=
  (buffer.setWindow window).1.toOption.getD []

def insert (event : Event) : List Event → List Event
  | [] => [event]
  | first :: rest =>
      if event.birthRound < first.birthRound then event :: first :: rest else first :: insert event rest

theorem insert_of_earlier {event : Event} {held : List Event}
    (earlier : ∀ other ∈ held, event.birthRound < other.birthRound) : insert event held = event :: held := by
  cases held with
  | nil => rfl
  | cons first rest => rw [insert, if_pos (earlier first List.mem_cons_self)]

theorem insert_append {event : Event} {front : List Event} (notLater : ∀ other ∈ front, other.birthRound ≤ event.birthRound)
    (rest : List Event) : insert event (front ++ rest) = front ++ insert event rest := by
  induction front with
  | nil => rfl
  | cons first front ih =>
      rw [List.forall_mem_cons] at notLater
      rw [List.cons_append, insert, if_neg (UInt64.not_lt.mpr notLater.1), ih notLater.2, List.cons_append]

theorem insert_perm (event : Event) (held : List Event) : (insert event held).Perm (event :: held) := by
  induction held with
  | nil => exact List.Perm.refl _
  | cons first rest ih =>
      simp only [insert]
      split
      · exact List.Perm.refl _
      · exact (ih.cons first).trans (List.Perm.swap event first rest)

def ByRound (events : List Event) : Prop :=
  events.Pairwise fun earlier later => earlier.birthRound ≤ later.birthRound

theorem insert_pairwise {related : Event → Event → Prop} {event : Event} {held : List Event}
    (byRound : ByRound held) (pairwise : held.Pairwise related)
    (behind : ∀ other ∈ held, other.birthRound ≤ event.birthRound → related other event)
    (ahead : ∀ other ∈ held, event.birthRound < other.birthRound → related event other) :
    (insert event held).Pairwise related := by
  induction held with
  | nil => exact List.pairwise_singleton _ _
  | cons first rest ih =>
      obtain ⟨above, later⟩ := List.pairwise_cons.mp byRound
      obtain ⟨leads, follow⟩ := List.pairwise_cons.mp pairwise
      simp only [insert]
      split
      · rename_i below
        refine List.pairwise_cons.mpr ⟨?_, pairwise⟩
        intro other listed
        refine ahead other listed ?_
        rcases List.mem_cons.mp listed with rfl | rest
        · exact below
        · exact UInt64.lt_of_lt_of_le below (above other rest)
      · rename_i notBelow
        refine List.pairwise_cons.mpr ⟨?_, ih later follow
          (fun other listed => behind other (List.mem_cons_of_mem _ listed))
          fun other listed => ahead other (List.mem_cons_of_mem _ listed)⟩
        intro other listed
        rcases List.mem_cons.mp ((insert_perm event rest).mem_iff.mp listed) with rfl | rest
        · exact behind first List.mem_cons_self (UInt64.not_lt.mp notBelow)
        · exact leads other rest

/-! ### Queues by rounds -/

theorem byRound_events (queues : RoundQueues) : ByRound queues.events := by
  refine List.pairwise_flatMap.mpr ⟨?_, queues.rising.imp_of_mem ?_⟩
  · intro queue listed
    refine List.pairwise_of_forall_mem_list fun earlier first later second => ?_
    rw [queues.filed queue listed earlier first, queues.filed queue listed later second]
    exact UInt64.le_refl _
  · intro before behind listed listedToo below earlier first later second
    rw [queues.filed before listed earlier first, queues.filed behind listedToo later second]
    exact UInt64.le_of_lt below

theorem byRound_held (buffer : HoldBuffer) : ByRound buffer.held := byRound_events buffer.queues

theorem flatMap_enqueue (event : Event) {queues : List (Round × List Event)}
    (rising : queues.Pairwise fun earlier later => earlier.1 < later.1)
    (filed : ∀ queue ∈ queues, ∀ other ∈ queue.2, other.birthRound = queue.1) :
    (RoundQueues.enqueue event queues).flatMap Prod.snd = insert event (queues.flatMap Prod.snd) := by
  induction queues with
  | nil => rfl
  | cons first rest ih =>
      obtain ⟨round, events⟩ := first
      obtain ⟨above, later⟩ := List.pairwise_cons.mp rising
      rw [List.forall_mem_cons] at filed
      have behind : ∀ other ∈ rest.flatMap Prod.snd, round < other.birthRound := by
        intro other listed
        obtain ⟨queue, member, inside⟩ := List.mem_flatMap.mp listed
        exact filed.2 queue member other inside ▸ above queue member
      simp only [RoundQueues.enqueue]
      split
      · rename_i below
        have earlier : ∀ other ∈ ((round, events) :: rest).flatMap Prod.snd, event.birthRound < other.birthRound := by
          intro other listed
          rcases List.mem_append.mp listed with inside | after
          · exact filed.1 other inside ▸ below
          · exact UInt64.lt_trans below (behind other after)
        rw [insert_of_earlier earlier]
        rfl
      split
      · rename_i same
        subst same
        have notLater : ∀ other ∈ events, other.birthRound ≤ event.birthRound := fun other inside =>
          UInt64.le_of_eq (filed.1 other inside)
        simp only [List.flatMap_cons, insert_append notLater, insert_of_earlier behind, List.append_assoc]
        rfl
      · rename_i notBelow different
        have notLater : ∀ other ∈ events, other.birthRound ≤ event.birthRound := fun other inside =>
          filed.1 other inside ▸ UInt64.not_lt.mp notBelow
        simp only [List.flatMap_cons, insert_append notLater, ih later filed.2]

theorem events_push (queues : RoundQueues) (event : Event) :
    (queues.push event).events = insert event queues.events :=
  flatMap_enqueue event queues.rising queues.filed

theorem flatMap_filter (accept : Round → Bool) {queues : List (Round × List Event)}
    (filed : ∀ queue ∈ queues, ∀ event ∈ queue.2, event.birthRound = queue.1) :
    (queues.filter fun queue => accept queue.1).flatMap Prod.snd =
      (queues.flatMap Prod.snd).filter fun event => accept event.birthRound := by
  induction queues with
  | nil => rfl
  | cons first rest ih =>
      rw [List.forall_mem_cons] at filed
      have same : first.2.filter (fun event => accept event.birthRound) =
          first.2.filter fun _ => accept first.1 :=
        List.filter_congr fun event inside => by rw [filed.1 event inside]
      rw [List.flatMap_cons, List.filter_append, same, ← ih filed.2]
      cases accepted : accept first.1 <;> simp [accepted]

theorem events_keep (queues : RoundQueues) (accept : Round → Bool) :
    (queues.keep accept).events = queues.events.filter fun event => accept event.birthRound :=
  flatMap_filter accept queues.filed

theorem ByRound.cut {held : List Event} (byRound : ByRound held) (pending : Nat) :
    held.filter (fun event => event.birthRound.toNat ≤ pending) ++
      held.filter (fun event => pending < event.birthRound.toNat) = held := by
  induction held with
  | nil => rfl
  | cons first rest ih =>
      obtain ⟨above, later⟩ := List.pairwise_cons.mp byRound
      by_cases reached : first.birthRound.toNat ≤ pending
      · simp [reached, Nat.not_lt.mpr reached, ih later]
      · have behind : ∀ event ∈ rest, pending < event.birthRound.toNat := fun event listed =>
          Nat.lt_of_lt_of_le (Nat.not_le.mp reached) (UInt64.le_iff_toNat_le.mp (above event listed))
        have none : rest.filter (fun event => event.birthRound.toNat ≤ pending) = [] := by
          simpa using behind
        have all : rest.filter (fun event => pending < event.birthRound.toNat) = rest := by
          simpa using behind
        simp [Nat.not_le.mp reached, none, all]

theorem held_start (mode : AncientMode) : (start mode).held = [] := rfl

theorem held_hold (buffer : HoldBuffer) (event : Event) : (buffer.hold event).held = insert event buffer.held :=
  events_push buffer.queues event

/-- The held events whose round a window reaches, ancient under it or not. -/
def reached (buffer : HoldBuffer) (window : EventWindow) (ancient : Bool) : List Event :=
  buffer.held.filter fun event =>
    event.birthRound.toNat ≤ window.pendingRound && window.isAncient event.descriptor == ancient

theorem reached_eq (buffer : HoldBuffer) (window : EventWindow) (ancient : Bool) :
    buffer.reached window ancient =
      (buffer.held.filter fun event => event.birthRound.toNat ≤ window.pendingRound).filter fun event =>
        window.isAncient event.descriptor == ancient := by
  simp only [reached, List.filter_filter, Bool.and_comm]

structure Cut (buffer : HoldBuffer) (window : EventWindow) : Prop where
  outcome : (buffer.setWindow window).1 = .ok (buffer.reached window false)
  held : (buffer.setWindow window).2.held =
    buffer.held.filter fun event => window.pendingRound < event.birthRound.toNat
  count : (buffer.setWindow window).2.count =
    buffer.count - ((buffer.reached window false).length + (buffer.reached window true).length)
  gauge : (buffer.setWindow window).2.gauge = min ((buffer.setWindow window).2.count : Int) 9223372036854775807

theorem cut_of_cutoff {window : EventWindow} {cutoff : Round} (found : cutoff? window = some cutoff)
    (buffer : HoldBuffer) : Cut buffer window := by
  have above := cutoff?_eq_some_iff.mp found
  have ready : (buffer.queues.keep (· < cutoff)).events =
      buffer.held.filter fun event => event.birthRound.toNat ≤ window.pendingRound := by
    rw [events_keep]
    refine List.filter_congr fun event _ => ?_
    rw [decide_eq_decide, UInt64.lt_iff_toNat_lt, above, Nat.lt_succ_iff]
  have later : (buffer.queues.keep (cutoff ≤ ·)).events =
      buffer.held.filter fun event => window.pendingRound < event.birthRound.toNat := by
    rw [events_keep]
    refine List.filter_congr fun event _ => ?_
    rw [decide_eq_decide, UInt64.le_iff_toNat_le, above, Nat.succ_le_iff]
  have sides : ∀ ancient, buffer.reached window ancient =
      (buffer.queues.keep (· < cutoff)).events.filter fun event => window.isAncient event.descriptor == ancient := by
    intro ancient
    rw [reached_eq, ready]
  simp only [beq_false, beq_true, Bool.forall_bool] at sides
  have split : buffer.setWindow window = (.ok ((buffer.queues.keep (· < cutoff)).events.filter fun event =>
      !window.isAncient event.descriptor), ({ buffer with window := window }.release cutoff).2) := by
    rw [setWindow, found]
    rfl
  refine ⟨?_, ?_, ?_, ?_⟩
  · rw [split, sides.1]
  · rw [split, ← later]
    rfl
  · rw [split, sides.1, sides.2]
    rfl
  · rw [split]
    rfl

theorem cut_of_low {window : EventWindow} (bound : window.latestConsensusRound.toNat ≤ 2 ^ 64 - 3)
    (buffer : HoldBuffer) : Cut buffer window := by
  cases found : cutoff? window with
  | none => exact absurd (cutoff?_eq_none_iff.mp found) (Nat.not_lt.mpr bound)
  | some cutoff => exact cut_of_cutoff found buffer

theorem setWindow_of_high {window : EventWindow} (high : 2 ^ 64 - 3 < window.latestConsensusRound.toNat)
    (buffer : HoldBuffer) : buffer.setWindow window = (.error .overflow, { buffer with window := window }) := by
  rw [setWindow, cutoff?_eq_none_iff.mpr high]

theorem setWindow_cases (buffer : HoldBuffer) (window : EventWindow) :
    Cut buffer window ∨ buffer.setWindow window = (.error .overflow, { buffer with window := window }) := by
  rcases Nat.lt_or_ge (2 ^ 64 - 3) window.latestConsensusRound.toNat with high | low
  · exact Or.inr (setWindow_of_high high buffer)
  · exact Or.inl (cut_of_low low buffer)

theorem Cut.released {buffer : HoldBuffer} {window : EventWindow} (cut : Cut buffer window) :
    buffer.released window = buffer.reached window false := by
  rw [HoldBuffer.released, cut.outcome]
  rfl

theorem window_setWindow (buffer : HoldBuffer) (window : EventWindow) :
    (buffer.setWindow window).2.window = window := by
  rw [setWindow]
  split <;> rfl

/-- The ways of an arrival. Without a pending round even a young event goes nowhere. -/
inductive Added (buffer : HoldBuffer) (event : Event) : Prop
  | dropped : buffer.window.isAncient event.descriptor = true → buffer.add event = (.ok none, buffer) →
      Added buffer event
  | passed : buffer.window.isAncient event.descriptor = false →
      event.birthRound.toNat ≤ buffer.window.pendingRound → buffer.add event = (.ok (some event), buffer) →
      Added buffer event
  | held : buffer.window.isAncient event.descriptor = false →
      buffer.window.pendingRound < event.birthRound.toNat → buffer.add event = (.ok none, buffer.hold event) →
      Added buffer event
  | overflow : UInt64.size ≤ buffer.window.pendingRound → buffer.add event = (.error .overflow, buffer) →
      Added buffer event

theorem add_cases (buffer : HoldBuffer) (event : Event) : Added buffer event := by
  cases ancient : buffer.window.isAncient event.descriptor with
  | true => exact .dropped ancient (by simp [add, ancient])
  | false =>
      cases found : buffer.window.pendingRound? with
      | none => exact .overflow (EventWindow.pendingRound?_eq_none_iff.mp found) (by simp [add, ancient, found])
      | some pending =>
          have same := EventWindow.pendingRound?_eq_some_iff.mp found
          by_cases ripe : event.birthRound ≤ pending
          · refine .passed ancient ?_ (by simp [add, ancient, found, ripe])
            rwa [← same, ← UInt64.le_iff_toNat_le]
          · refine .held ancient ?_ (by simp [add, ancient, found, ripe])
            rwa [← same, ← UInt64.lt_iff_toNat_lt, ← UInt64.not_le]

theorem window_add (buffer : HoldBuffer) (event : Event) : (buffer.add event).2.window = buffer.window := by
  cases buffer.add_cases event with
  | dropped _ added | passed _ _ added | overflow _ added => rw [added]
  | held _ _ added =>
      rw [added]
      rfl

theorem passed_of_add {buffer next : HoldBuffer} {event : Event} {outcome : Except Overflow (Option Event)}
    (added : buffer.add event = (outcome, next)) : buffer.passed event = outcome.toOption.join.toList := by
  rw [passed, added]

theorem mem_passed {buffer : HoldBuffer} {arrived event : Event} (low : buffer.window.pendingRound < UInt64.size) :
    event ∈ buffer.passed arrived ↔ arrived = event ∧
      buffer.window.isAncient event.descriptor = false ∧ event.birthRound.toNat ≤ buffer.window.pendingRound := by
  cases buffer.add_cases arrived with
  | dropped ancient added =>
      rw [passed_of_add added]
      refine iff_of_false List.not_mem_nil ?_
      rintro ⟨rfl, young, _⟩
      simp [ancient] at young
  | passed young ripe added =>
      rw [passed_of_add added]
      constructor
      · intro listed
        obtain rfl := List.mem_singleton.mp listed
        exact ⟨rfl, young, ripe⟩
      · rintro ⟨rfl, _⟩
        exact List.mem_singleton_self _
  | held _ early added =>
      rw [passed_of_add added]
      refine iff_of_false List.not_mem_nil ?_
      rintro ⟨rfl, _, ripe⟩
      exact Nat.not_le.mpr early ripe
  | overflow high _ => omega

theorem mem_held_add {buffer : HoldBuffer} {arrived event : Event} (low : buffer.window.pendingRound < UInt64.size) :
    event ∈ (buffer.add arrived).2.held ↔
      (arrived = event ∧ buffer.window.isAncient event.descriptor = false ∧
        buffer.window.pendingRound < event.birthRound.toNat) ∨ event ∈ buffer.held := by
  cases buffer.add_cases arrived with
  | dropped ancient added =>
      rw [added]
      refine (or_iff_right ?_).symm
      rintro ⟨rfl, young, _⟩
      simp [ancient] at young
  | passed _ ripe added =>
      rw [added]
      refine (or_iff_right ?_).symm
      rintro ⟨rfl, _, early⟩
      exact Nat.not_le.mpr early ripe
  | held young early added =>
      rw [added, held_hold, (insert_perm arrived buffer.held).mem_iff, List.mem_cons]
      refine or_congr ⟨?_, fun held => held.1.symm⟩ Iff.rfl
      rintro rfl
      exact ⟨rfl, young, early⟩
  | overflow high _ => omega

theorem mem_released {buffer : HoldBuffer} {window : EventWindow}
    (bound : window.latestConsensusRound.toNat ≤ 2 ^ 64 - 3) {event : Event} :
    event ∈ buffer.released window ↔ event ∈ buffer.held ∧ event.birthRound.toNat ≤ window.pendingRound ∧
      window.isAncient event.descriptor = false := by
  simp [(cut_of_low bound buffer).released, reached]

theorem mem_held_setWindow {buffer : HoldBuffer} {window : EventWindow}
    (bound : window.latestConsensusRound.toNat ≤ 2 ^ 64 - 3) {event : Event} :
    event ∈ (buffer.setWindow window).2.held ↔
      event ∈ buffer.held ∧ window.pendingRound < event.birthRound.toNat := by
  simp [(cut_of_low bound buffer).held]

theorem setWindow_sublist (buffer : HoldBuffer) (window : EventWindow) :
    (buffer.released window ++ (buffer.setWindow window).2.held).Sublist buffer.held := by
  rcases buffer.setWindow_cases window with cut | overflow
  · rw [cut.released, cut.held, reached_eq]
    calc ((buffer.held.filter fun event => event.birthRound.toNat ≤ window.pendingRound).filter (fun event =>
          window.isAncient event.descriptor == false) ++
            buffer.held.filter fun event => window.pendingRound < event.birthRound.toNat).Sublist
          (buffer.held.filter (fun event => event.birthRound.toNat ≤ window.pendingRound) ++
            buffer.held.filter fun event => window.pendingRound < event.birthRound.toNat) :=
          List.filter_sublist.append_right _
      _ = buffer.held := buffer.byRound_held.cut _
  · rw [released, overflow]
    exact List.Sublist.refl _

structure Conveyed (registered conveyed : List Event) (buffer : HoldBuffer) : Prop where
  part : (conveyed ++ buffer.held).Subperm registered
  early : ∀ event ∈ buffer.held, buffer.window.pendingRound < event.birthRound.toNat

variable {registered conveyed : List Event} {buffer : HoldBuffer}

theorem Conveyed.add (before : Conveyed registered conveyed buffer) (event : Event) :
    Conveyed (registered ++ [event]) (conveyed ++ buffer.passed event) (buffer.add event).2 := by
  have longer : (event :: (conveyed ++ buffer.held)).Subperm (registered ++ [event]) :=
    (List.subperm_cons event |>.mpr before.part).trans (List.perm_append_singleton event registered).symm.subperm
  cases buffer.add_cases event with
  | dropped _ added | overflow _ added =>
      rw [passed_of_add added, added]
      refine ⟨?_, before.early⟩
      change (conveyed ++ [] ++ buffer.held).Subperm _
      rw [List.append_nil]
      exact before.part.trans (List.sublist_append_left _ _).subperm
  | passed _ _ added =>
      rw [passed_of_add added, added]
      refine ⟨?_, before.early⟩
      change (conveyed ++ [event] ++ buffer.held).Subperm _
      rw [List.append_assoc]
      exact List.perm_middle.subperm.trans longer
  | held _ early added =>
      rw [passed_of_add added, added]
      refine ⟨?_, ?_⟩
      · change (conveyed ++ [] ++ (buffer.hold event).held).Subperm _
        rw [List.append_nil, held_hold]
        exact (((insert_perm event buffer.held).append_left conveyed).trans List.perm_middle).subperm.trans longer
      · intro other listed
        rw [held_hold, (insert_perm event buffer.held).mem_iff] at listed
        rcases List.mem_cons.mp listed with rfl | held
        · exact early
        · exact before.early other held

theorem Conveyed.setWindow (before : Conveyed registered conveyed buffer) {window : EventWindow}
    (bound : window.latestConsensusRound.toNat ≤ 2 ^ 64 - 3) :
    Conveyed registered (conveyed ++ buffer.released window) (buffer.setWindow window).2 where
  part := by
    rw [List.append_assoc]
    exact ((buffer.setWindow_sublist window).append_left conveyed).subperm.trans before.part
  early := by
    rw [window_setWindow]
    exact fun _ held => ((mem_held_setWindow bound).mp held).2

def RoundsRise (events : List Event) : Prop :=
  ∀ parent ∈ events, ∀ child ∈ events, parent.descriptor ∈ child.parents → parent.birthRound ≤ child.birthRound

theorem RoundsRise.of_subset {events fewer : List Event} (rise : RoundsRise events) (part : fewer ⊆ events) :
    RoundsRise fewer :=
  fun parent member child listed => rise parent (part member) child (part listed)

/-- A held event is born later than the one passed on, so that it is no parent of it. -/
theorem Conveyed.parentsFirst_add (before : Conveyed registered conveyed buffer)
    (inOrder : ParentsFirst (conveyed ++ buffer.held)) {event : Event}
    (registration : ParentsFirst (registered ++ [event])) (rise : RoundsRise (registered ++ [event])) :
    ParentsFirst (conveyed ++ buffer.passed event ++ (buffer.add event).2.held) := by
  refine ⟨?_, fun other listed => registration.apart other ((before.add event).part.subset listed)⟩
  have known : ∀ other ∈ conveyed ++ buffer.held, other ∈ registered := fun other listed =>
    before.part.subset listed
  have behind : ∀ other ∈ conveyed ++ buffer.held, event.descriptor ∉ other.parents := fun other listed =>
    (List.pairwise_append.mp registration.ordered).2.2 other (known other listed) event List.mem_cons_self
  have ahead : ∀ other ∈ buffer.held, event.birthRound < other.birthRound →
      other.descriptor ∉ event.parents := by
    intro other held later named
    have member := known other (List.mem_append_right _ held)
    exact UInt64.not_le.mpr later (rise other (List.mem_append_left _ member) event (by simp) named)
  obtain ⟨passedOrder, heldOrder, across⟩ := List.pairwise_append.mp inOrder.ordered
  have joined : ∀ others : List Event, (others.Pairwise fun earlier later => later.descriptor ∉ earlier.parents) →
      (∀ other ∈ others, other = event ∨ other ∈ buffer.held) →
        (conveyed ++ others).Pairwise fun earlier later => later.descriptor ∉ earlier.parents := by
    intro others ordered listed
    refine List.pairwise_append.mpr ⟨passedOrder, ordered, ?_⟩
    intro first isPassed other member
    rcases listed other member with rfl | held
    · exact behind first (List.mem_append_left _ isPassed)
    · exact across first isPassed other held
  rw [List.append_assoc]
  cases buffer.add_cases event with
  | dropped _ added | overflow _ added =>
      rw [passed_of_add added, added]
      exact joined buffer.held heldOrder fun _ held => Or.inr held
  | passed _ ripe added =>
      rw [passed_of_add added, added]
      refine joined (event :: buffer.held) (List.pairwise_cons.mpr ⟨?_, heldOrder⟩) fun _ => List.mem_cons.mp
      intro other held
      exact ahead other held (UInt64.lt_iff_toNat_lt.mpr (Nat.lt_of_le_of_lt ripe (before.early other held)))
  | held _ _ added =>
      rw [passed_of_add added, added]
      refine joined (buffer.hold event).held ?_ ?_
      · rw [held_hold]
        exact insert_pairwise buffer.byRound_held heldOrder
          (fun other held _ => behind other (List.mem_append_right _ held)) ahead
      · intro other listed
        rw [held_hold, (insert_perm event buffer.held).mem_iff] at listed
        exact List.mem_cons.mp listed

theorem parentsFirst_setWindow (inOrder : ParentsFirst (conveyed ++ buffer.held)) (window : EventWindow) :
    ParentsFirst (conveyed ++ buffer.released window ++ (buffer.setWindow window).2.held) := by
  rw [List.append_assoc]
  exact inOrder.sublist ((buffer.setWindow_sublist window).append_left conveyed)

end HoldBuffer

end Hashgraph
