import Hashgraph.Proofs.ManagerRun
import Hashgraph.Proofs.Refusals

/-! The way of transactions through a node: those of its events, in the order of creation, and those that still
wait are together just the submitted ones, in the order of submission. -/

namespace Hashgraph

namespace TransactionPool

theorem takeFitting_append (maxBytes used : Nat) (transactions : List Transaction) :
    (takeFitting maxBytes used transactions).1 ++ (takeFitting maxBytes used transactions).2 = transactions := by
  induction transactions generalizing used with
  | nil => rfl
  | cons next rest ih =>
      simp only [takeFitting]
      split
      · rfl
      · simp [ih]

theorem drain_append (maxBytes : Nat) (pool : TransactionPool) :
    (drain maxBytes pool).1 ++ (drain maxBytes pool).2.pending = pool.pending := by
  unfold drain
  split
  · rename_i nothing
    simp [nothing]
  · rename_i first rest waiting
    simp [waiting, takeFitting_append]

end TransactionPool

namespace Manager

theorem install_of_calls {manager : Manager} {operation : Operation} {window : EventWindow}
    (called : .install window ∈ manager.calls operation) : operation = .command (.setWindow window) := by
  have directed : .install window ∈ manager.directs operation := by
    rcases List.mem_append.mp called with direct | passed
    · exact direct
    · simp at passed
  cases operation with
  | command command => cases command <;> simp_all [directs]
  | submit transaction => simp [directs] at directed
  | attempt sign now =>
      simp only [directs] at directed
      split at directed <;> simp at directed

theorem inMode_perform {mode : AncientMode} {manager : Manager} (inMode : Creator.InMode mode manager.creator)
    (operation : Operation) (fits : ∀ window, operation = .command (.setWindow window) → window.mode = mode) :
    Creator.InMode mode (manager.perform operation).creator := by
  rw [creator_perform]
  exact inMode.history _ fun window called => fits window (install_of_calls called)

theorem transactions_perform {manager : Manager} (sameMode : manager.creator.window.mode = manager.creator.mode)
    (operation : Operation) :
    (manager.makes operation).flatMap Event.transactions ++ (manager.perform operation).pool.pending =
      manager.pool.pending ++ operation.submitted?.toList := by
  cases operation with
  | command command =>
      cases command with
      | register event => simp [makes, perform, handle, register_eq, Operation.submitted?]
      | setWindow window => simp [makes, perform, handle, setWindow_eq, Operation.submitted?]
      | setPlatformStatus status => simp [makes, perform, handle, setPlatformStatus, Operation.submitted?]
      | setUnhealthy span => simp [makes, perform, handle, setUnhealthy, Operation.submitted?]
      | clear => simp [makes, perform, handle, clear, Operation.submitted?]
  | submit transaction => simp [makes, perform, submit, TransactionPool.submit, Operation.submitted?]
  | attempt sign now =>
      simp only [makes, perform, Operation.submitted?, Option.toList_none, List.append_nil]
      rcases manager.attempt_cases sign now with ⟨status, _, blocked⟩ | ⟨_, attempted⟩
      · rw [blocked]
        rfl
      · have spends := manager.creator.attempt_spends (manager.surroundings sign) now manager.pool
        rw [attempted.outcome, attempted.pool]
        change ((manager.creator.attempt (manager.surroundings sign) now manager.pool).event?).toList.flatMap
          Event.transactions ++ _ = _
        cases made : (manager.creator.attempt (manager.surroundings sign) now manager.pool).event? with
        | none => simp [spends.kept_of_sameMode sameMode made]
        | some event =>
            obtain ⟨taken, left⟩ := spends.created event (Attempt.event?_eq_some.mp made)
            simp only [Option.toList_some, List.flatMap_singleton, taken, left]
            exact TransactionPool.drain_append _ _

theorem transactions_after {mode : AncientMode} {manager : Manager}
    (inMode : Creator.InMode mode manager.creator) (operations : List Operation)
    (fits : ∀ window, .command (.setWindow window) ∈ operations → window.mode = mode) :
    (manager.yields makes operations).flatMap Event.transactions ++ (manager.after operations).pool.pending =
      manager.pool.pending ++ operations.filterMap Operation.submitted? := by
  induction operations generalizing manager with
  | nil => simp [yields, after]
  | cons operation rest ih =>
      have next := inMode_perform inMode operation fun window same => fits window (same ▸ List.mem_cons_self)
      have later := ih next fun window listed => fits window (List.mem_cons_of_mem _ listed)
      have now := manager.transactions_perform (inMode.window.trans inMode.own.symm) operation
      calc (manager.yields makes (operation :: rest)).flatMap Event.transactions ++
            (manager.after (operation :: rest)).pool.pending
          = (manager.makes operation).flatMap Event.transactions ++
              (((manager.perform operation).yields makes rest).flatMap Event.transactions ++
                ((manager.perform operation).after rest).pool.pending) := by
            simp [yields, after]
        _ = (manager.makes operation).flatMap Event.transactions ++ (manager.perform operation).pool.pending ++
              rest.filterMap Operation.submitted? := by
            rw [later, List.append_assoc]
        _ = manager.pool.pending ++ (operation :: rest).filterMap Operation.submitted? := by
            rw [now, List.append_assoc, List.filterMap_cons]
            cases operation.submitted? <;> rfl

/-- Whatever a node goes through with windows of its mode, the transactions of the events it has made and those
that still wait are the submitted ones in their order. -/
theorem transactions_are_kept_in_order (seat : Seat) (mode : AncientMode) (settings : CreationSettings)
    (operations : List Operation) (fits : ∀ window, .command (.setWindow window) ∈ operations → window.mode = mode) :
    ((start seat mode settings).yields makes operations).flatMap Event.transactions ++
        ((start seat mode settings).after operations).pool.pending =
      operations.filterMap Operation.submitted? := by
  have inMode : Creator.InMode mode (start seat mode settings).creator := ⟨rfl, rfl⟩
  exact transactions_after inMode operations fits

def frugalRun : List Operation :=
  [.command (.setPlatformStatus .active), .submit ⟨[1]⟩, .submit ⟨[2, 2]⟩, .attempt (fun _ => .absent) .epoch,
    .command (.setWindow ⟨0, 2, 2, .birthRoundThreshold⟩), .submit ⟨[3]⟩, .attempt (fun _ => .absent) .epoch,
    .attempt (fun _ => .absent) ⟨1000000000, by decide, by decide⟩, .command .clear]

def frugalSettings : CreationSettings := { CreationSettings.default with maxTransactionBytes := 2 }

theorem frugalRun_leaves_one_transaction :
    ((start loneSeat .birthRoundThreshold frugalSettings).yields makes frugalRun).map Event.transactions =
        [[⟨[1]⟩], [⟨[2, 2]⟩]] ∧
      ((start loneSeat .birthRoundThreshold frugalSettings).after frugalRun).pool.pending = [⟨[3]⟩] := by
  have made : ((start loneSeat .birthRoundThreshold frugalSettings).yields makes frugalRun).map
      Event.transactions = [[⟨[1]⟩], [⟨[2, 2]⟩]] := by
    decide +kernel
  have kept := transactions_are_kept_in_order loneSeat .birthRoundThreshold frugalSettings frugalRun
    (by simp [frugalRun])
  have submitted : frugalRun.filterMap Operation.submitted? = [⟨[1]⟩, ⟨[2, 2]⟩, ⟨[3]⟩] := rfl
  rw [List.flatMap_def, made, submitted] at kept
  exact ⟨made, by simpa using kept⟩

end Manager

end Hashgraph
