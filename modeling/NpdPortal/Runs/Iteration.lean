import NpdPortal.Runs.Polls
import NpdPortal.Runs.Submission

/-!
# An iteration that sends a command

One call of `run_once` on a pending operation whose VM is placed: the marker is
committed, the command of the stage is called once, and its outcome is stored
against the row with the marker.
-/

namespace NpdPortal

/-- The call which sends the command of a stage. -/
def Stage.command (stage : Stage) (vmId : Uuid) (request : CreateVmRequest)
    (target : ProviderPlacement) : AdapterCall :=
  match stage with
  | clone => .cloneVm request target.node target.vmid
  | configure => .configureVm request target.node target.vmid
  | resize => .resizeVmDisk request target.node target.vmid
  | initialStart | start | rebootStart => .startVm vmId target.node target.vmid
  | shutdown | rebootShutdown => .shutdownVm vmId target.node target.vmid
  | stop => .stopVm vmId target.node target.vmid
  | delete => .deleteVm vmId target.node target.vmid

/-- The result of a command as the worker keeps it. -/
def AdapterCall.result : (call : AdapterCall) → call.Answer → ProviderResult
  | .cloneVm .., result => .clone result
  | .deleteVm .., result => .delete result
  | .configureVm .., task | .resizeVmDisk .., task | .startVm .., task | .shutdownVm .., task
  | .stopVm .., task => .task task
  | _, _ => .task none

/-- The command of a stage is the only call of its dispatch. -/
theorem Stage.submit_eq (stage : Stage) (operation : Operation) {request : Option CreateVmRequest}
    (built : CreateVmRequest) (target : ProviderPlacement)
    (given : stage.operationType = .vmCreate → stage ≠ .initialStart → request = some built) :
    (stage.dispatch operation request target).submit =
      .call (stage.command operation.virtualMachineId built target) fun answer =>
        .done (answer.map (stage.command operation.virtualMachineId built target).result) := by
  cases stage <;> simp only [Stage.operationType, reduceCtorEq, not_true_eq_false,
      not_false_eq_true, forall_const, false_implies, ne_eq] at given <;>
    simp +decide [given, dispatch, Dispatch.submit, command, Program.done_bind_ok] <;> rfl

/-- The changes which the storing transaction makes to a row with the marker. -/
def Stage.storing (stage : Stage) (stamp : Time) (operation : Operation) (vm : VirtualMachine)
    (target : ProviderPlacement) : Except Error ProviderResult → Option Changes
  | .ok result => (stage.reply result).bind (stage.replied stamp operation vm target)
  | .error _ => some (operation.failedWith stage.reconcilePhase "provider_submit_unknown" stamp)

section Iteration

variable {world : World} {operation : Operation} {vm : VirtualMachine}
  {target : ProviderPlacement} {stage : Stage}

/-- The storing transaction finds the row with the marker. -/
theorem World.storeDatabase_eq {db : Database} {row before : Operation}
    (stored : row ∈ db.operations) (placed : Placed db row vm target)
    (atRow : (Position.dispatching stage).Matches row) (same : before.id = row.id)
    (request : Option CreateVmRequest) (sentTo : ProviderPlacement)
    (outcome : Except Error ProviderResult) (stamp dbNow : Time) :
    World.storeDatabase db (stage.dispatch before request sentTo) outcome stamp dbNow =
      (stage.storing stamp row vm target outcome).bind (db.flush dbNow row) := by
  have found : db.operation? before.id = some row :=
    Database.operation?_eq_some_iff.mpr ⟨stored, same.symm⟩
  unfold World.storeDatabase
  rw [Stage.dispatch_operationId, found]
  have shares : stage.Shares stage := .inl rfl
  have computed : (storeOutcome stamp db (stage.dispatch before request sentTo)
      outcome).toOption = stage.storing stamp row vm target outcome := by
    rw [storeOutcome_eq stamp outcome found placed atRow atRow.operationType]
    cases outcome <;> simp [Position.replied, Position.raised, shares, Stage.storing]
  rw [← computed]
  cases storeOutcome stamp db (stage.dispatch before request sentTo) outcome <;> rfl

/-- The marker is committed, and what is stored for an outcome is decided by the stage. -/
theorem exists_marked {db : Database} (stored : operation ∈ db.operations)
    (placed : Placed db operation vm target) (atStage : (Position.pending stage).Matches operation)
    (stamp dbNow : Time) :
    ∃ marked row, db.flush dbNow operation (stage.prepared stamp operation vm) = some marked ∧
      row = operation.onUpdate (stage.prepared stamp operation vm).operation dbNow ∧
      row ∈ marked.operations ∧ (Position.dispatching stage).Matches row ∧
      operation.SameIdentity row ∧ Placed marked row (stage.markChange.apply vm) target ∧
      ∀ request outcome storeStamp storeDbNow,
        World.storeDatabase marked (stage.dispatch operation request target) outcome storeStamp
            storeDbNow =
          (stage.storing storeStamp row (stage.markChange.apply vm) target outcome).bind
            (marked.flush storeDbNow row) := by
  have refines : (stage.prepared stamp operation vm).Refines .marked (.pending stage) operation vm
      (.dispatching stage) := Stage.prepared_refines atStage
  have vmMem := (Database.virtualMachine?_eq_some_iff.mp placed.vmStored).1
  rcases refines.exists_flush dbNow stored vmMem (by simp) trivial with ⟨marked, flushed⟩
  rcases refines with ⟨_, _, atMarked, identity, _⟩
  let row := operation.onUpdate (stage.prepared stamp operation vm).operation dbNow
  have found : marked.operation? operation.id = some row :=
    Database.flush_operation? stored identity flushed
  have vmFound : marked.virtualMachine? operation.virtualMachineId =
      some (stage.markChange.apply vm) :=
    Database.flush_virtualMachine? placed.vmStored rfl flushed
  have same : operation.SameIdentity row := Operation.onUpdate_sameIdentity dbNow identity
  have atRow : (Position.dispatching stage).Matches row := atMarked.onUpdate dbNow
  have keeps : (stage.markChange.apply vm).providerNode = vm.providerNode ∧
      (stage.markChange.apply vm).providerVmid = vm.providerVmid := by
    cases stage <;> exact ⟨rfl, rfl⟩
  have placedAfter : Placed marked row (stage.markChange.apply vm) target :=
    ⟨same.virtualMachineId ▸ vmFound, keeps.1.trans placed.node, keeps.2.trans placed.vmid⟩
  have rowMem := (Database.operation?_eq_some_iff.mp found).1
  exact ⟨marked, row, flushed, rfl, rowMem, atRow, same, placedAfter,
    fun request => World.storeDatabase_eq rowMem placedAfter atRow same.id.symm request target⟩

/-- One call of `run_once` on a pending operation whose VM is placed. -/
theorem World.runOnce_pending (stored : operation ∈ world.db.operations)
    (placed : Placed world.db operation vm target)
    (hasKey : stage.operationType = .vmCreate → HasSshKey world.db vm)
    (atStage : (Position.pending stage).Matches operation) (turn : Turn) :
    ∃ built marked row dispatch,
      (stage.operationType = .vmCreate → stage ≠ .initialStart →
        buildCreateVmRequest world.db vm = .ok built) ∧
      world.db.flush turn.dbNow operation (stage.prepared turn.stamp operation vm) = some marked ∧
      row = operation.onUpdate (stage.prepared turn.stamp operation vm).operation turn.dbNow ∧
      row ∈ marked.operations ∧ (Position.dispatching stage).Matches row ∧
      operation.SameIdentity row ∧ Placed marked row (stage.markChange.apply vm) target ∧
      (world.selectStep operation turn.selecting turn.stamp turn.dbNow).2.inFlight =
        world.inFlight ++ [.submitting dispatch] ∧
      let call := stage.command operation.virtualMachineId built target
      (Program.run turn.submitting 0 dispatch.submit).1 = [⟨call, turn.submitting 0 call⟩] ∧
      world.runOnce operation turn = {
        world with db := ((stage.storing turn.storeStamp row (stage.markChange.apply vm) target
          ((turn.submitting 0 call).map call.result)).bind
            (marked.flush turn.storeDbNow row)).getD marked } := by
  rcases runSelected_pending turn.stamp placed hasKey atStage with ⟨request, given, computed⟩
  rcases exists_marked stored placed atStage turn.stamp turn.dbNow with
    ⟨marked, row, flushed, isRow, rowMem, atRow, identity, placedAfter, storing⟩
  have built : ∃ built, stage.operationType = .vmCreate → stage ≠ .initialStart →
      buildCreateVmRequest world.db vm = .ok built ∧ request = some built := by
    by_cases creates : stage.operationType = .vmCreate ∧ stage ≠ .initialStart
    · rcases given creates.1 creates.2 with ⟨built, isBuilt⟩
      exact ⟨built, fun _ _ => isBuilt⟩
    · exact ⟨⟨vm.id, "", 0, 0, 0, ""⟩, fun isCreate notStart => absurd ⟨isCreate, notStart⟩ creates⟩
  rcases built with ⟨built, isBuilt⟩
  have submits := stage.submit_eq operation built target fun isCreate notStart =>
    (isBuilt isCreate notStart).2
  let call := stage.command operation.virtualMachineId built target
  let submitting : World := { db := marked
                              inFlight := world.inFlight ++
                                [.submitting (stage.dispatch operation request target)] }
  have selected : (world.selectStep operation turn.selecting turn.stamp turn.dbNow).2 =
      submitting := by
    unfold World.selectStep
    simp only [computed, Program.run_done, flushed]
    rfl
  have ran : Program.run turn.submitting 0 (stage.dispatch operation request target).submit =
      ([⟨call, turn.submitting 0 call⟩], (turn.submitting 0 call).map call.result) := by
    rw [submits, Program.run_call, Program.run_done]
  refine ⟨built, marked, row, stage.dispatch operation request target,
    fun isCreate notStart => (isBuilt isCreate notStart).1, flushed, isRow, rowMem, atRow, identity,
    placedAfter, congrArg World.inFlight selected, congrArg Prod.fst ran, ?_⟩
  have answered : ∀ flight other : Flight,
      (world.inFlight ++ [flight]).set world.inFlight.length other = world.inFlight ++ [other] := by
    simp
  have ended : ∀ flight : Flight,
      (world.inFlight ++ [flight]).eraseIdx world.inFlight.length = world.inFlight := by
    simp [List.eraseIdx_append_of_length_le]
  unfold World.runOnce
  rw [selected]
  simp only [World.perform, LabelledSystem.perform, World.step?, submitting,
    List.getElem?_concat_length, answered, ended, ran, storing]
  cases (stage.storing turn.storeStamp row (stage.markChange.apply vm) target
    ((turn.submitting 0 call).map call.result)).bind (marked.flush turn.storeDbNow row) <;> rfl

/-- Which position a stored outcome leads to. -/
theorem Stage.storing_matches {row : Operation} {stamp : Time} {changes : Changes}
    {outcome : Except Error ProviderResult}
    (atRow : (Position.dispatching stage).Matches row)
    (decided : stage.storing stamp row vm target outcome = some changes) :
    row.SameIdentity changes.operation ∧
      match outcome with
      | .error _ => (Position.reconciling stage).Matches changes.operation ∧
          changes.operation.lastErrorCode = some "provider_submit_unknown"
      | .ok result =>
          if stage.reply result = some .inProgress then
            (Position.reconciling stage).Matches changes.operation
          else (Position.polling stage false).Matches changes.operation ∨
            stage.after.Matches changes.operation := by
  have noTask := atRow.providerTaskId_eq_none rfl
  cases outcome with
  | error error =>
      cases decided
      refine ⟨⟨rfl, rfl, rfl, rfl⟩, ⟨atRow.operationType, atRow.status, ?_, ?_⟩, rfl⟩
      · simp [Operation.failedWith, Position.phases]
      · simp [Operation.failedWith, Position.hasTask, noTask]
  | ok result =>
      rcases Option.bind_eq_some_iff.mp decided with ⟨reply, replies, accepted⟩
      simp only [replies, Option.some.injEq]
      cases reply with
      | task task =>
          simp only [Stage.replied] at accepted
          split at accepted <;> cases accepted
          refine ⟨⟨rfl, rfl, rfl, rfl⟩, ?_⟩
          have atPolling : (Position.polling stage false).Matches (stage.withTask row task) :=
            ⟨atRow.operationType, atRow.status, by simp [Stage.withTask, Position.phases], rfl⟩
          simpa using .inl atPolling
      | done =>
          cases accepted
          exact ⟨stage.completed_sameIdentity row,
            by simpa using .inr (stage.completed_matches atRow.operationType)⟩
      | inProgress =>
          cases accepted
          have unreviewed := Stage.reviewPhase_of_inProgress replies
          refine ⟨⟨rfl, rfl, rfl, rfl⟩, ?_⟩
          rw [if_pos rfl]
          refine ⟨atRow.operationType, atRow.status, ?_, ?_⟩
          · simp [Stage.unknownOutcome, unreviewed, Position.phases]
          · simp [Stage.unknownOutcome, Position.hasTask, noTask]

/-- The row after the storing transaction, which finds the marker of the stage. -/
theorem exists_stored {db : Database} {row : Operation} (stored : row ∈ db.operations)
    (placed : Placed db row vm target) (atRow : (Position.dispatching stage).Matches row)
    (stamp dbNow : Time) (outcome : Except Error ProviderResult) :
    ∃ updated, (((stage.storing stamp row vm target outcome).bind
        (db.flush dbNow row)).getD db).operation? row.id = some updated ∧
      row.SameIdentity updated ∧
      match outcome with
      | .error _ => (Position.reconciling stage).Matches updated ∧
          updated.lastErrorCode = some "provider_submit_unknown"
      | .ok result =>
          if stage.reply result = some .inProgress then
            (Position.reconciling stage).Matches updated
          else (Position.dispatching stage).Matches updated ∨
            (Position.polling stage false).Matches updated ∨ stage.after.Matches updated := by
  cases decided : stage.storing stamp row vm target outcome with
  | none =>
      refine ⟨row, Database.operation?_eq_some_iff.mpr ⟨stored, rfl⟩, .refl row, ?_⟩
      cases outcome with
      | error error => cases decided
      | ok result =>
          have refused : stage.reply result ≠ some .inProgress := by
            intro inProgress
            simp [Stage.storing, inProgress, Stage.replied] at decided
          simpa [refused] using .inl atRow
  | some changes =>
      rcases Stage.storing_matches atRow decided with ⟨identity, reaches⟩
      have vmMem := (Database.virtualMachine?_eq_some_iff.mp placed.vmStored).1
      have refines : ∃ reached, changes.Refines (.outcome outcome) (.dispatching stage) row vm
          reached := by
        have shares : stage.Shares stage := .inl rfl
        cases outcome with
        | error error =>
            have accepted : (Position.dispatching stage).raised stage stamp row = some changes := by
              simpa [Position.raised, shares, Stage.storing] using decided
            exact Position.raised_refines atRow accepted
        | ok result =>
            have accepted : (Position.dispatching stage).replied stage stamp row vm target result =
                some changes := by
              simpa [Position.replied, shares, Stage.storing] using decided
            exact Position.replied_refines atRow accepted
      rcases refines with ⟨reached, refines⟩
      rw [Option.bind_some]
      cases flushed : db.flush dbNow row changes with
      | none =>
          -- the column of the task does not take its id, so the row keeps the marker
          have misfits : ¬(Evidence.outcome outcome).Fits := by
            intro fits
            rcases refines.exists_flush dbNow stored vmMem (by simp) fits with ⟨next, written⟩
            simp [flushed] at written
          refine ⟨row, Database.operation?_eq_some_iff.mpr ⟨stored, rfl⟩, .refl row, ?_⟩
          cases outcome with
          | error error => exact absurd trivial misfits
          | ok result =>
              have other : stage.reply result ≠ some .inProgress := by
                refine fun inProgress => misfits fun task carries => ?_
                cases Stage.reply_of_task carries inProgress
              simpa [other] using .inl atRow
      | some next =>
          refine ⟨row.onUpdate changes.operation dbNow,
            Database.flush_operation? stored identity flushed,
            Operation.onUpdate_sameIdentity dbNow identity, ?_⟩
          cases outcome with
          | error error =>
              refine ⟨reaches.1.onUpdate dbNow, ?_⟩
              exact (congrArg Standing.lastErrorCode
                (row.onUpdate_standing changes.operation dbNow none)).trans reaches.2
          | ok result =>
              simp only at reaches ⊢
              split at reaches
              · rename_i inProgress
                rw [if_pos inProgress]
                exact reaches.onUpdate dbNow
              · rename_i other
                rw [if_neg other]
                exact .inr (reaches.imp (·.onUpdate dbNow) (·.onUpdate dbNow))

end Iteration

end NpdPortal
