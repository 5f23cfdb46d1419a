import Hashgraph.Proofs.ManagerRun

/-! The rate limit over whole runs. An event is made only if the minimum period has passed since the last one, and
nothing but a made event moves the mark from which the period counts, so periods add up along a run. -/

namespace Hashgraph

namespace Rule

theorem permits_of_unblocked {rules : List Rule} {now : Instant} {context : RuleContext}
    (unblocked : blockingStatus rules now context = none) {rule : Rule} (listed : rule ∈ rules) :
    rule.permits now context = true := by
  rw [blockingStatus, Option.map_eq_none_iff, List.find?_eq_none] at unblocked
  simpa using unblocked rule listed

theorem le_of_permits {period : Span} {last now : Instant} {context : RuleContext}
    (permitted : (maximumRate (some period) (some last)).permits now context = true) :
    period ≤ now.nanos - last.nanos := by
  simpa [permits] using permitted

end Rule

namespace Manager

theorem attemptPermitted_rules_cases (manager : Manager) (sign : EventHash → Signature) (now : Instant) :
    (∃ event, (manager.attemptPermitted sign now).1 = .ok (some event) ∧
        (manager.attemptPermitted sign now).2.rules = manager.rules.map (Rule.afterEvent now)) ∨
      ((manager.attemptPermitted sign now).1.toOption.join = none ∧
        (manager.attemptPermitted sign now).2.rules = manager.rules) := by
  generalize equal : manager.attemptPermitted sign now = result
  simp only [attemptPermitted] at equal
  split at equal
  · subst equal
    exact Or.inr ⟨rfl, rfl⟩
  · subst equal
    exact Or.inl ⟨_, rfl, rfl⟩
  · subst equal
    exact Or.inr ⟨rfl, rfl⟩

theorem rules_perform_cases (manager : Manager) (operation : Operation) :
    (manager.makes operation = [] ∧ (manager.perform operation).rules = manager.rules) ∨
      ∃ sign now event, operation = .attempt sign now ∧ manager.makes operation = [event] ∧
        (∀ rule ∈ manager.rules, rule.permits now manager.context = true) ∧
        (manager.perform operation).rules = manager.rules.map (Rule.afterEvent now) := by
  cases operation with
  | command command =>
      left
      cases command with
      | register event => exact ⟨rfl, by rw [perform, handle, register_eq]⟩
      | setWindow window => exact ⟨rfl, by rw [perform, handle, setWindow_eq]⟩
      | setPlatformStatus status => exact ⟨rfl, rfl⟩
      | setUnhealthy span => exact ⟨rfl, rfl⟩
      | clear => exact ⟨rfl, rfl⟩
  | submit transaction => exact Or.inl ⟨rfl, rfl⟩
  | attempt sign now =>
      cases blocked : Rule.blockingStatus manager.rules now manager.context with
      | some status =>
          have refused : manager.attempt sign now = (.ok none, manager.enter status) := by simp [attempt, blocked]
          left
          simp only [makes, perform, refused]
          exact ⟨rfl, rfl⟩
      | none =>
          have permitted : manager.attempt sign now = manager.attemptPermitted sign now := by
            simp [attempt, blocked]
          simp only [makes, perform, permitted]
          rcases manager.attemptPermitted_rules_cases sign now with ⟨event, made, marked⟩ | ⟨nothing, same⟩
          · exact Or.inr ⟨sign, now, event, rfl, by rw [made]; rfl,
              fun rule => Rule.permits_of_unblocked blocked, marked⟩
          · exact Or.inl ⟨by rw [nothing]; rfl, same⟩

theorem join_eq_some_iff {outcome : Except CreationError (Option Event)} {event : Event} :
    outcome.toOption.join = some event ↔ outcome = .ok (some event) := by
  cases outcome <;> simp [Except.toOption]

theorem makes_attempt (manager : Manager) (sign : EventHash → Signature) (now : Instant) {event : Event}
    (created : (manager.attempt sign now).1 = .ok (some event)) : manager.makes (.attempt sign now) = [event] := by
  rw [makes, join_eq_some_iff.mpr created]
  rfl

theorem limited_after {manager : Manager} {period : Span}
    (limited : ∃ last, Rule.maximumRate (some period) last ∈ manager.rules) (operations : List Operation) :
    ∃ last, Rule.maximumRate (some period) last ∈ (manager.after operations).rules := by
  induction operations using List.reverseRecOn with
  | nil => exact limited
  | append_singleton operations operation ih =>
      obtain ⟨last, listed⟩ := ih
      rw [after_concat]
      rcases (manager.after operations).rules_perform_cases operation with ⟨_, same⟩ | ⟨_, now, _, _, _, _, marked⟩
      · exact ⟨last, same ▸ listed⟩
      · exact ⟨some now, marked ▸ List.mem_map_of_mem listed⟩

/-- From a mark on, each event of a run moves the mark by the minimum period at least. -/
theorem mark_after {manager : Manager} {period : Span} {mark : Instant}
    (marked : Rule.maximumRate (some period) (some mark) ∈ manager.rules) (operations : List Operation) :
    ∃ last : Instant, Rule.maximumRate (some period) (some last) ∈ (manager.after operations).rules ∧
      ((manager.yields makes operations).length * period : Nat) ≤ last.nanos - mark.nanos := by
  induction operations using List.reverseRecOn with
  | nil => exact ⟨mark, marked, by simp [yields]⟩
  | append_singleton operations operation ih =>
      obtain ⟨last, listed, passed⟩ := ih
      rw [after_concat, yields_concat, List.length_append, Nat.add_mul]
      rcases (manager.after operations).rules_perform_cases operation with
        ⟨nothing, same⟩ | ⟨_, now, _, _, made, permitted, renewed⟩
      · exact ⟨last, same ▸ listed, by simpa [nothing] using passed⟩
      · refine ⟨now, renewed ▸ List.mem_map_of_mem listed, ?_⟩
        have waited := Rule.le_of_permits (permitted _ listed)
        rw [made, List.length_singleton, Nat.one_mul]
        omega

/-- With the standard rules and a rate that limits, two events of a node with some others between them are as many
minimum periods apart as there are steps from event to event, whatever the clock does in the meantime. -/
theorem events_keep_the_minimum_period (manager : Manager) (settings : CreationSettings)
    (standard : manager.rules = standardRules settings) {period : Span}
    (limited : Rule.periodOfRate settings.maxCreationRate = some period) (before between : List Operation)
    (sign laterSign : EventHash → Signature) (now later : Instant) (event laterEvent : Event) :
    let ready := manager.after before
    let made := ready.perform (.attempt sign now)
    (ready.attempt sign now).1 = .ok (some event) →
      ((made.after between).attempt laterSign later).1 = .ok (some laterEvent) →
        (((made.yields makes between).length + 1) * period : Nat) ≤ later.nanos - now.nanos := by
  intro ready made first second
  have unmarked : Rule.maximumRate (some period) none ∈ manager.rules := by
    simp [standard, standardRules, Rule.ofRate, limited]
  obtain ⟨last, listed⟩ := limited_after ⟨none, unmarked⟩ before
  have madeFirst := ready.makes_attempt sign now first
  have madeSecond := (made.after between).makes_attempt laterSign later second
  have marked : Rule.maximumRate (some period) (some now) ∈ made.rules := by
    rcases ready.rules_perform_cases (.attempt sign now) with ⟨nothing, _⟩ | ⟨_, _, _, same, _, _, renewed⟩
    · simp [madeFirst] at nothing
    · cases same
      exact renewed ▸ List.mem_map_of_mem listed
  obtain ⟨mark, kept, passed⟩ := mark_after marked between
  rcases (made.after between).rules_perform_cases (.attempt laterSign later) with
    ⟨nothing, _⟩ | ⟨_, _, _, same, _, permitted, _⟩
  · simp [madeSecond] at nothing
  · cases same
    have waited := Rule.le_of_permits (permitted _ kept)
    rw [Nat.add_mul, Nat.one_mul]
    omega

def atMillis (millis : Fin 1000) : Instant := ⟨millis * 1000000, by omega, by omega⟩

def awakened : Manager := (start loneSeat .birthRoundThreshold .default).perform (.command (.setPlatformStatus .active))

def hastyRun : List Operation :=
  [.command .clear, .attempt (fun _ => .absent) .epoch, .attempt (fun _ => .absent) (atMillis 51),
    .attempt (fun _ => .absent) (atMillis 52)]

theorem hastyRun_keeps_the_minimum_period :
    let made := awakened.perform (.attempt (fun _ => .absent) (atMillis 1))
    ∃ event laterEvent, (awakened.attempt (fun _ => .absent) (atMillis 1)).1 = .ok (some event) ∧
      ((made.after hastyRun).attempt (fun _ => .absent) (atMillis 101)).1 = .ok (some laterEvent) ∧
      (made.yields makes hastyRun).length = 1 ∧
      (((made.yields makes hastyRun).length + 1) * (50000000 : Span) : Nat) ≤
        (atMillis 101).nanos - (atMillis 1).nanos := by
  have facts :
      let made := awakened.perform (.attempt (fun _ => .absent) (atMillis 1))
      Rule.periodOfRate CreationSettings.default.maxCreationRate = some 50000000 ∧
        (awakened.attempt (fun _ => .absent) (atMillis 1)).1.toOption.join.isSome = true ∧
        ((made.after hastyRun).attempt (fun _ => .absent) (atMillis 101)).1.toOption.join.isSome = true ∧
        (made.yields makes hastyRun).length = 1 := by
    decide +kernel
  obtain ⟨limited, first, second, once⟩ := facts
  obtain ⟨event, created⟩ := Option.isSome_iff_exists.mp first
  obtain ⟨laterEvent, createdLater⟩ := Option.isSome_iff_exists.mp second
  rw [join_eq_some_iff] at created createdLater
  have kept := events_keep_the_minimum_period awakened .default rfl limited [] hastyRun (fun _ => .absent)
    (fun _ => .absent) (atMillis 1) (atMillis 101) event laterEvent created createdLater
  rw [show awakened.after [] = awakened from rfl] at kept
  exact ⟨event, laterEvent, created, createdLater, once, kept⟩

end Manager

end Hashgraph
