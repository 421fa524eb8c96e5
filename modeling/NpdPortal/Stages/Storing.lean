import NpdPortal.Stages.Selecting

/-!
# The storing transaction follows the stage machine

The transaction which stores the outcome of a provider call is computed for
every position of the operation.  It looks at the position it finds, not at the
stage the call was made for: the shared lifecycle functions are not told which
command produced the outcome.
-/

namespace NpdPortal

section Phases

/-- Only a row at the dispatch of a stage stores its marker. -/
theorem Position.eq_dispatching {position : Position} {stage : Stage}
    (stores : some stage.dispatchPhase ∈ position.phases) : position = .dispatching stage := by
  revert stores
  cases position with
  | pending other => revert stage other; decide
  | dispatching other => revert stage other; decide
  | reconciling other => revert stage other; decide
  | polling other backoff => revert stage other; cases backoff <;> decide
  | review other => revert stage other; decide
  | succeeded kind => revert stage; cases kind <;> decide
  | failed other => revert stage other; decide

/-- Only a row at some dispatch has a phase with the prefix of the markers. -/
theorem Position.exists_eq_dispatching {position : Position} {phase : Option String}
    (stores : phase ∈ position.phases)
    (marker : PyString.startswith (phase.getD "") "dispatch_" = true) :
    ∃ stage, position = .dispatching stage := by
  have none : ∀ {phases : List (Option String)},
      phases.all (fun phase => !PyString.startswith (phase.getD "") "dispatch_") = true →
        phase ∉ phases := by
    intro phases unmarked phaseMem
    have := List.all_eq_true.mp unmarked phase phaseMem
    simp [marker] at this
  cases position with
  | dispatching other => exact ⟨other, rfl⟩
  | pending other => exact absurd stores (none (by cases other <;> decide))
  | reconciling other => exact absurd stores (none (by cases other <;> decide))
  | polling other backoff =>
      exact absurd stores (none (by cases other <;> cases backoff <;> decide))
  | review other => exact absurd stores (none (by cases other <;> decide))
  | succeeded kind => exact absurd stores (none (by cases kind <;> decide))
  | failed other => exact absurd stores (none (by cases other <;> decide))

/-- Only a row whose outcome is unknown stores the reconcile marker of a stage. -/
theorem Position.eq_reconciling {position : Position} {stage : Stage}
    (stores : some stage.reconcilePhase ∈ position.phases) : position = .reconciling stage := by
  revert stores
  cases position with
  | pending other => revert stage other; decide
  | dispatching other => revert stage other; decide
  | reconciling other => revert stage other; decide
  | polling other backoff => revert stage other; cases backoff <;> decide
  | review other => revert stage other; decide
  | succeeded kind => revert stage; cases kind <;> decide
  | failed other => revert stage other; decide

/-- The stages of one type differ in everything a row stores for them. -/
theorem Stage.phases_differ {first second : Stage}
    (sameType : first.operationType = second.operationType) (differ : first ≠ second) :
    first.pendingPhase ≠ second.pendingPhase ∧ first.taskPhase ≠ second.taskPhase ∧
      first.taskPhase ≠ second.backoffPhase ∧ first.backoffPhase ≠ second.taskPhase ∧
      first.backoffPhase ≠ second.backoffPhase ∧
      ¬∃ phase ∈ first.reviewPhase, phase ∈ second.reviewPhase := by
  revert first second
  decide

theorem Stage.taskPhase_ne_backoffPhase (stage : Stage) :
    stage.taskPhase ≠ stage.backoffPhase := by
  revert stage
  decide

/-- A row is at one position only. -/
theorem Position.Matches.unique {operation : Operation} {first second : Position}
    (atFirst : first.Matches operation) (atSecond : second.Matches operation) :
    first = second := by
  have status := atFirst.status.symm.trans atSecond.status
  have task := atFirst.task.symm.trans atSecond.task
  have sameType := atFirst.operationType.symm.trans atSecond.operationType
  have firstPhase := atFirst.phase
  have secondPhase := atSecond.phase
  cases first with
  | dispatching stage =>
      rw [atFirst.phase_of_dispatching] at secondPhase
      exact (Position.eq_dispatching secondPhase).symm
  | reconciling stage =>
      rw [atFirst.phase_of_reconciling] at secondPhase
      exact (Position.eq_reconciling secondPhase).symm
  | pending stage =>
      cases second <;> simp only [Position.status, reduceCtorEq] at status
      rename_i other
      by_contra differ
      have stages : stage ≠ other := fun same => differ (congrArg _ same)
      exact (Stage.phases_differ sameType stages).1
        (atFirst.phase_of_pending.symm.trans atSecond.phase_of_pending)
  | polling stage backoff =>
      cases second <;> simp only [Position.status, Position.hasTask, reduceCtorEq] at status task
      rename_i other otherBackoff
      have phases := Option.some.inj
        (atFirst.phase_of_polling.symm.trans atSecond.phase_of_polling)
      by_cases stages : stage = other
      · subst stages
        have distinct := stage.taskPhase_ne_backoffPhase
        cases backoff <;> cases otherBackoff <;> simp_all
      · rcases Stage.phases_differ sameType stages with ⟨_, tasks, mixed, mixed', backoffs, _⟩
        cases backoff <;> cases otherBackoff <;> simp_all
  | review stage =>
      cases second <;> simp only [Position.status, Position.hasTask, reduceCtorEq] at status task
      · exact Position.eq_dispatching (atSecond.phase_of_dispatching ▸ firstPhase)
      · exact Position.eq_reconciling (atSecond.phase_of_reconciling ▸ firstPhase)
      · rename_i other
        simp only [Position.phases, Option.mem_toList, Option.map_eq_some_iff]
          at firstPhase secondPhase
        rcases firstPhase with ⟨phase, reviewed, stored⟩
        rcases secondPhase with ⟨_, otherReviewed, same⟩
        rcases Option.some.inj (same.trans stored.symm) with rfl
        by_contra differ
        have stages : stage ≠ other := fun same => differ (congrArg _ same)
        exact (Stage.phases_differ sameType stages).2.2.2.2.2 ⟨_, reviewed, otherReviewed⟩
  | succeeded operationType =>
      cases second <;> simp only [Position.status, reduceCtorEq] at status
      exact congrArg _ sameType
  | failed stage =>
      cases second <;> simp only [Position.status, reduceCtorEq] at status
      rename_i other
      by_contra differ
      have stages : stage ≠ other := fun same => differ (congrArg _ same)
      rcases Stage.phases_differ sameType stages with ⟨_, tasks, mixed, mixed', backoffs, _⟩
      simp only [Position.phases, List.mem_cons, List.not_mem_nil, or_false]
        at firstPhase secondPhase
      rcases firstPhase with firstPhase | firstPhase <;>
        rcases secondPhase with secondPhase | secondPhase <;>
        simp_all

end Phases

section Storing

variable {db : Database} {operation before : Operation} {position : Position}
  {dispatched : Stage} {request : Option CreateVmRequest} {sentTo : ProviderPlacement}

/-- The rows after a call that raised. -/
theorem storeUnknown_eq (stamp : Time) (stored : db.operation? before.id = some operation)
    (atPosition : position.Matches operation)
    (kind : operation.operationType = dispatched.operationType) :
    (storeUnknown stamp db (dispatched.dispatch before request sentTo)).toOption =
      position.raised dispatched stamp operation := by
  by_cases atDispatch : ∃ current, position = .dispatching current
  · rcases atDispatch with ⟨current, rfl⟩
    have phase := atPosition.phase_of_dispatching
    have processing := atPosition.status
    have sameType := atPosition.operationType.symm.trans kind
    simp only [Position.operationType, Position.status] at processing sameType
    cases dispatched <;> cases current <;>
      simp only [Stage.operationType, reduceCtorEq] at sameType <;>
      simp only [storeUnknown, Stage.dispatch, stored, found_some, ok_bind, phase, processing,
        Operation.phaseStartswith, Operation.reconcilePhase, Stage.dispatchPhase,
        Stage.reconcilePhase, Position.raised] <;>
      simp +decide [Except.toOption] <;>
      rfl
  · have unmarked : ∀ stage : Stage, operation.phase ≠ some stage.dispatchPhase :=
      fun stage phase => atDispatch ⟨stage, Position.eq_dispatching (phase ▸ atPosition.phase)⟩
    have noPrefix : operation.phaseStartswith "dispatch_" = false := by
      by_contra marked
      exact atDispatch (Position.exists_eq_dispatching atPosition.phase
        (Bool.eq_true_of_not_eq_false marked))
    have refused : position.raised dispatched stamp operation = none := by
      cases position <;> first | rfl | exact absurd ⟨_, rfl⟩ atDispatch
    have notMarked := unmarked dispatched
    rw [refused]
    cases dispatched <;>
      simp only [Stage.dispatchPhase] at notMarked <;>
      simp only [storeUnknown, Stage.dispatch, stored, found_some, ok_bind] <;>
      simp [noPrefix, notMarked, Except.toOption]

variable {vm : VirtualMachine} {target : ProviderPlacement}

/-- The rows after a call that returned, for an operation at the dispatch of a stage. -/
theorem storeResult_dispatching (stamp : Time) (result : ProviderResult) {current : Stage}
    (stored : db.operation? before.id = some operation)
    (placed : Placed db operation vm target)
    (atDispatch : (Position.dispatching current).Matches operation)
    (kind : operation.operationType = dispatched.operationType) :
    (storeResult stamp db (dispatched.dispatch before request sentTo) result).toOption =
      (Position.dispatching current).replied dispatched stamp operation vm target result := by
  have phase := atDispatch.phase_of_dispatching
  have processing := atDispatch.status
  have noTask := atDispatch.providerTaskId_eq_none rfl
  have sameType := atDispatch.operationType.symm.trans kind
  have lifecycle := getLifecycleVm_of_placed placed rfl
  simp only [Position.operationType, Position.status] at processing sameType
  cases dispatched <;> cases current <;>
    simp only [Stage.operationType, reduceCtorEq] at sameType kind <;>
    simp only [Stage.dispatchPhase] at phase <;>
    simp only [storeResult, Stage.dispatch, stored, found_some, ok_bind, Position.replied] <;>
    rcases result with ⟨_ | _ | _, _ | task⟩ | (_ | task) | ⟨_ | _ | _, _ | task⟩ <;>
    simp +decide [finishCreateVmDispatch, finishStartVmDispatch, finishLifecycleDispatch,
      finishLifecycleTask, finishLifecycleNone, kind, phase, processing, noTask, lifecycle,
      Stage.reply, Stage.replied, Stage.completed, Stage.unknownOutcome, Stage.withTask,
      Stage.taskChange, Stage.doneChange, Stage.doneStatus, Stage.next, Stage.pendingPhase,
      Stage.taskPhase, Stage.reconcilePhase, Stage.reviewPhase, VmChange.write, VmChange.apply,
      checkTaskTarget, require, Except.toOption] <;>
    by_cases addressed : task.node = target.node ∧ task.vmid = target.vmid <;>
    simp [addressed]

/-- While a stage is reconciled only the task of a power-off is still stored. -/
theorem storeResult_reconciling (stamp : Time) (result : ProviderResult) {current : Stage}
    (stored : db.operation? before.id = some operation)
    (placed : Placed db operation vm target)
    (atReconcile : (Position.reconciling current).Matches operation)
    (kind : operation.operationType = dispatched.operationType) :
    (storeResult stamp db (dispatched.dispatch before request sentTo) result).toOption =
      (Position.reconciling current).replied dispatched stamp operation vm target result := by
  have phase := atReconcile.phase_of_reconciling
  have processing := atReconcile.status
  have noTask := atReconcile.providerTaskId_eq_none rfl
  have sameType := atReconcile.operationType.symm.trans kind
  have lifecycle := getLifecycleVm_of_placed placed rfl
  simp only [Position.operationType, Position.status] at processing sameType
  cases dispatched <;> cases current <;>
    simp only [Stage.operationType, reduceCtorEq] at sameType kind <;>
    simp only [Stage.reconcilePhase] at phase <;>
    simp only [storeResult, Stage.dispatch, stored, found_some, ok_bind, Position.replied] <;>
    rcases result with ⟨_ | _ | _, _ | task⟩ | (_ | task) | ⟨_ | _ | _, _ | task⟩ <;>
    simp +decide [finishCreateVmDispatch, finishStartVmDispatch, finishLifecycleDispatch,
      finishLifecycleTask, finishLifecycleNone, kind, phase, processing, noTask, lifecycle,
      Stage.reply, Stage.replied, Stage.withTask, Stage.taskChange, Stage.taskPhase,
      VmChange.write, checkTaskTarget, require, Except.toOption] <;>
    by_cases addressed : task.node = target.node ∧ task.vmid = target.vmid <;>
    simp [addressed]

/-- An operation that waits for no command takes no result. -/
theorem storeResult_of_not_awaiting (stamp : Time) (result : ProviderResult)
    (stored : db.operation? before.id = some operation)
    (atPosition : position.Matches operation)
    (kind : operation.operationType = dispatched.operationType)
    (waits : ∀ current, ¬position.Awaits current) :
    (storeResult stamp db (dispatched.dispatch before request sentTo) result).toOption =
      none := by
  have unmarked : operation.phase ≠ some dispatched.dispatchPhase := fun phase =>
    waits dispatched (.inl (Position.eq_dispatching (phase ▸ atPosition.phase)))
  by_cases created : dispatched.operationType = .vmCreate ∨ dispatched.operationType = .vmStart
  · -- These two transactions compare the phase with their own marker.
    cases dispatched <;>
      simp only [Stage.operationType, reduceCtorEq, or_false, or_true] at created kind <;>
      simp only [Stage.dispatchPhase] at unmarked <;>
      simp only [storeResult, Stage.dispatch, stored, found_some, ok_bind] <;>
      rcases result with _ | task | _ <;>
      by_cases processing : operation.status = .processing <;>
      simp [finishCreateVmDispatch, finishStartVmDispatch, kind, processing, unmarked,
        Except.toOption]
  · have closed : ¬(operation.status = .processing ∧ operation.providerTaskId = none) := by
      rintro ⟨processing, noTask⟩
      have status := atPosition.status
      have task := atPosition.task
      rw [processing] at status
      rw [noTask] at task
      cases position with
      | pending stage => simp [Position.status] at status
      | dispatching stage => exact waits stage (.inl rfl)
      | reconciling stage => exact waits stage (.inr rfl)
      | polling stage backoff => simp [Position.hasTask] at task
      | review stage =>
          -- Only stages of a create are handed to an operator.
          have phase := atPosition.phase
          have reviewed := atPosition.operationType
          cases stage <;> simp [Position.phases, Stage.reviewPhase] at phase <;>
            exact created (.inl (kind.symm.trans reviewed))
      | succeeded operationType => simp [Position.status] at status
      | failed stage => simp [Position.status] at status
    cases dispatched <;>
      simp only [Stage.operationType, reduceCtorEq, or_false, or_true, not_true_eq_false,
        not_false_eq_true] at created <;>
      simp [storeResult, Stage.dispatch, stored, finishLifecycleDispatch, closed,
        Except.toOption]

/-- What the storing transaction writes is determined by the position it finds. -/
theorem storeOutcome_eq (stamp : Time) (outcome : Except Error ProviderResult)
    (stored : db.operation? before.id = some operation)
    (placed : Placed db operation vm target) (atPosition : position.Matches operation)
    (kind : operation.operationType = dispatched.operationType) :
    (storeOutcome stamp db (dispatched.dispatch before request sentTo) outcome).toOption =
      match outcome with
      | .ok result => position.replied dispatched stamp operation vm target result
      | .error _ => position.raised dispatched stamp operation := by
  cases outcome with
  | error error => exact storeUnknown_eq stamp stored atPosition kind
  | ok result =>
      cases position with
      | dispatching current =>
          exact storeResult_dispatching stamp result stored placed atPosition kind
      | reconciling current =>
          exact storeResult_reconciling stamp result stored placed atPosition kind
      | _ =>
          exact storeResult_of_not_awaiting stamp result stored atPosition kind
            (fun current => by simp [Position.Awaits])

end Storing

end NpdPortal
