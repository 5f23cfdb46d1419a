import Hashgraph.Proofs.Draining
import Hashgraph.Proofs.RateLimit

/-! A node while its platform freezes. It makes events only as long as transactions wait, each event takes one of
them at least, and so the pool bounds the number of events that are still to come. -/

namespace Hashgraph

namespace Manager

namespace Operation

def platformStatus? : Operation → Option PlatformStatus
  | .command (.setPlatformStatus status) => some status
  | _ => none

end Operation

structure Freezing (manager : Manager) : Prop where
  watched : Rule.platformStatus ∈ manager.rules
  status : manager.platformStatus = .freezing

theorem platformStatus_attempt (manager : Manager) (sign : EventHash → Signature) (now : Instant) :
    (manager.attempt sign now).2.platformStatus = manager.platformStatus := by
  unfold attempt
  split
  · rfl
  · simp only [attemptPermitted]
    split <;> rfl

theorem platformStatus_perform (manager : Manager) (operation : Operation) :
    (manager.perform operation).platformStatus = operation.platformStatus?.getD manager.platformStatus := by
  cases operation with
  | command command =>
      cases command with
      | register event => rw [perform, handle, register_eq]; rfl
      | setWindow window => rw [perform, handle, setWindow_eq]; rfl
      | setPlatformStatus status => rfl
      | setUnhealthy span => rfl
      | clear => rfl
  | submit transaction => rfl
  | attempt sign now => exact manager.platformStatus_attempt sign now

theorem watched_perform {manager : Manager} (watched : Rule.platformStatus ∈ manager.rules) (operation : Operation) :
    Rule.platformStatus ∈ (manager.perform operation).rules := by
  rcases manager.rules_perform_cases operation with ⟨_, same⟩ | ⟨_, _, _, _, _, _, marked⟩
  · rwa [same]
  · rw [marked]
    exact List.mem_map.mpr ⟨_, watched, rfl⟩

theorem watched_after (seat : Seat) (mode : AncientMode) (settings : CreationSettings)
    (operations : List Operation) : Rule.platformStatus ∈ ((start seat mode settings).after operations).rules := by
  apply List.foldlRecOn operations perform (motive := fun manager => Rule.platformStatus ∈ manager.rules)
  · simp [start, standardRules]
  · exact fun manager watched operation _ => watched_perform watched operation

theorem Freezing.persists {manager : Manager} (freezing : Freezing manager) {operation : Operation}
    (steady : ∀ status ∈ operation.platformStatus?, status = .freezing) :
    Freezing (manager.perform operation) := by
  refine ⟨watched_perform freezing.watched operation, ?_⟩
  rw [platformStatus_perform]
  cases changed : operation.platformStatus? with
  | none => exact freezing.status
  | some status => exact steady status changed

theorem Freezing.waiting {manager : Manager} (freezing : Freezing manager) {now : Instant}
    (permitted : Rule.blockingStatus manager.rules now manager.context = none) : manager.pool.pending ≠ [] := by
  have allowed := Rule.permits_of_unblocked permitted freezing.watched
  simpa [Rule.permits, context, freezing.status, TransactionPool.isEmpty] using allowed

theorem Freezing.attempt_cases {manager : Manager} (freezing : Freezing manager)
    (sign : EventHash → Signature) (now : Instant) :
    (∃ event, (manager.attempt sign now).1 = .ok (some event) ∧ event.transactions ≠ [] ∧
        (manager.attempt sign now).2.pool.size < manager.pool.size) ∨
      ((manager.attempt sign now).1.toOption.join = none ∧
        (manager.attempt sign now).2.pool.size ≤ manager.pool.size) := by
  rcases manager.attempt_cases sign now with ⟨status, _, blocked⟩ | ⟨permitted, attempted⟩
  · rw [blocked]
    exact Or.inr ⟨rfl, Nat.le_refl _⟩
  · have spends := manager.creator.attempt_spends (manager.surroundings sign) now manager.pool
    have taken : (manager.pool.drain manager.maxTransactionBytes).1 ≠ [] :=
      mt TransactionPool.drain_eq_nil_iff.mp (freezing.waiting permitted)
    have fewer : (manager.pool.drain manager.maxTransactionBytes).2.size < manager.pool.size := by
      have parts := manager.pool.length_drain_add_size manager.maxTransactionBytes
      have some_ := List.length_pos_iff.mpr taken
      omega
    rw [attempted.outcome, attempted.pool]
    cases outcome : (manager.creator.attempt (manager.surroundings sign) now manager.pool).outcome with
    | ok result =>
        cases result with
        | none => exact Or.inr ⟨rfl, Nat.le_of_eq (congrArg TransactionPool.size (spends.refused outcome))⟩
        | some event =>
            obtain ⟨transactions, left⟩ := spends.created event outcome
            refine Or.inl ⟨event, rfl, ?_, ?_⟩
            · rw [transactions]
              exact taken
            · rw [left]
              exact fewer
    | error fault =>
        refine Or.inr ⟨rfl, ?_⟩
        cases fault with
        | outOfRange => rw [spends.halted outcome]
        | untracked descriptor =>
            rw [(spends.untracked descriptor outcome).1]
            exact Nat.le_of_lt fewer

theorem Freezing.size_perform {manager : Manager} (freezing : Freezing manager) (operation : Operation) :
    (manager.makes operation).length + (manager.perform operation).pool.size ≤
      manager.pool.size + operation.submitted?.toList.length := by
  cases operation with
  | command command =>
      cases command with
      | register event => simp [makes, perform, handle, register_eq]
      | setWindow window => simp [makes, perform, handle, setWindow_eq]
      | setPlatformStatus status => simp [makes, perform, handle, setPlatformStatus]
      | setUnhealthy span => simp [makes, perform, handle, setUnhealthy]
      | clear => simp [makes, perform, handle, clear]
  | submit transaction => simp [makes, perform, submit, TransactionPool.submit, TransactionPool.size,
      Operation.submitted?]
  | attempt sign now =>
      rcases freezing.attempt_cases sign now with ⟨event, made, _, fewer⟩ | ⟨nothing, kept⟩
      · rw [manager.makes_attempt sign now made, perform, List.length_singleton]
        omega
      · rw [makes, nothing, perform]
        simpa using Nat.le_add_right_of_le kept

theorem Freezing.size_after {manager : Manager} (freezing : Freezing manager) (operations : List Operation)
    (steady : ∀ status ∈ operations.filterMap Operation.platformStatus?, status = .freezing) :
    (manager.yields makes operations).length + (manager.after operations).pool.size ≤
      manager.pool.size + (operations.filterMap Operation.submitted?).length := by
  induction operations generalizing manager with
  | nil => simp [yields, after]
  | cons operation rest ih =>
      have next : Freezing (manager.perform operation) := freezing.persists fun status sets =>
        steady status (List.mem_filterMap.mpr ⟨operation, List.mem_cons_self, sets⟩)
      have later := ih next fun status listed => by
        obtain ⟨other, member, sets⟩ := List.mem_filterMap.mp listed
        exact steady status (List.mem_filterMap.mpr ⟨other, List.mem_cons_of_mem _ member, sets⟩)
      have now := freezing.size_perform operation
      have submitted : ((operation :: rest).filterMap Operation.submitted?).length =
          operation.submitted?.toList.length + (rest.filterMap Operation.submitted?).length := by
        rw [List.filterMap_cons]
        cases operation.submitted? <;> simp [Nat.add_comm]
      change ((manager.perform operation).yields makes rest).length +
        (manager.after (operation :: rest)).pool.size ≤ _ at later
      rw [yields, List.length_append, submitted]
      omega

/-- Whatever a node goes through, an event that it makes while its platform freezes has a transaction. So from the
start of a freeze, and as long as the status stays, the events that it makes and the transactions that still wait
are together no more than the transactions that waited then and those submitted since. -/
theorem freezing_nodes_drain_and_stop (seat : Seat) (mode : AncientMode) (settings : CreationSettings)
    (before since : List Operation)
    (steady : ∀ status ∈ since.filterMap Operation.platformStatus?, status = .freezing) :
    let ready := (start seat mode settings).after before
    let frozen := ready.perform (.command (.setPlatformStatus .freezing))
    (ready.platformStatus = .freezing → ∀ sign now event, (ready.attempt sign now).1 = .ok (some event) →
        event.transactions ≠ []) ∧
      (frozen.yields makes since).length + (frozen.after since).pool.size ≤
        ready.pool.size + (since.filterMap Operation.submitted?).length := by
  intro ready frozen
  have watched := watched_after seat mode settings before
  constructor
  · intro status sign now event made
    have freezing : Freezing ready := ⟨watched, status⟩
    rcases freezing.attempt_cases sign now with ⟨other, same, taken, _⟩ | ⟨nothing, _⟩
    · cases made.symm.trans same
      exact taken
    · simp [made, Except.toOption] at nothing
  · have freezing : Freezing frozen := ⟨watched_perform watched _, rfl⟩
    exact freezing.size_after since steady

def unhurriedSettings : CreationSettings :=
  { CreationSettings.default with maxCreationRate := 0.0, maxTransactionBytes := 2 }

def coolingRun : List Operation :=
  [.command (.setPlatformStatus .active), .attempt (fun _ => .absent) .epoch, .submit ⟨[1, 1, 1]⟩, .submit ⟨[]⟩]

def frozenRun : List Operation :=
  [.attempt (fun _ => .absent) .epoch, .attempt (fun _ => .absent) .epoch, .submit ⟨[2]⟩,
    .attempt (fun _ => .absent) .epoch, .attempt (fun _ => .absent) .epoch]

theorem frozenRun_makes_three_events :
    let frozen := ((start loneSeat .birthRoundThreshold unhurriedSettings).after coolingRun).perform
      (.command (.setPlatformStatus .freezing))
    (∀ event, (frozen.attempt (fun _ => .absent) .epoch).1 = .ok (some event) → event.transactions ≠ []) ∧
      (frozen.yields makes frozenRun).map Event.transactions = [[⟨[1, 1, 1]⟩], [⟨[]⟩], [⟨[2]⟩]] ∧
      (frozen.after frozenRun).pool = .empty := by
  have facts :
      let ready := (start loneSeat .birthRoundThreshold unhurriedSettings).after coolingRun
      let frozen := ready.perform (.command (.setPlatformStatus .freezing))
      ready.pool.size = 2 ∧
        (frozen.yields makes frozenRun).map Event.transactions = [[⟨[1, 1, 1]⟩], [⟨[]⟩], [⟨[2]⟩]] := by
    decide +kernel
  obtain ⟨two, made⟩ := facts
  obtain ⟨taking, _⟩ := freezing_nodes_drain_and_stop loneSeat .birthRoundThreshold unhurriedSettings
    (coolingRun ++ [.command (.setPlatformStatus .freezing)]) [] (by simp)
  obtain ⟨_, bound⟩ := freezing_nodes_drain_and_stop loneSeat .birthRoundThreshold unhurriedSettings coolingRun
    frozenRun (by simp [frozenRun, Operation.platformStatus?])
  rw [after_concat] at taking
  refine ⟨taking rfl _ _, made, TransactionPool.eq_empty_of_size ?_⟩
  have three := congrArg List.length made
  have one : (frozenRun.filterMap Operation.submitted?).length = 1 := rfl
  rw [two, one] at bound
  simp only [List.length_map, List.length_cons, List.length_nil] at three
  omega

end Manager

end Hashgraph
