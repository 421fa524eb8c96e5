import NpdPortal.Stages.Machine

/-!
# The selecting transaction follows the stage machine

For a row at a known position the body of the selecting transaction is
computed once and for all: the adapter call it makes, if any, and the rows it
writes for every answer.
-/

namespace NpdPortal

/-- The rows an operation of a placed VM works with. -/
structure Placed (db : Database) (operation : Operation) (vm : VirtualMachine)
    (target : ProviderPlacement) : Prop where
  vmStored : db.virtualMachine? operation.virtualMachineId = some vm
  node : vm.providerNode = some target.node
  vmid : vm.providerVmid = some target.vmid

/-- The SSH key of the VM is there and belongs to the owner of the VM. -/
def HasSshKey (db : Database) (vm : VirtualMachine) : Prop :=
  ∃ keyId ∈ vm.sshPublicKeyId, ∃ key ∈ db.sshPublicKey? keyId, key.ownerUserId = vm.ownerUserId

section Rows

variable {db : Database} {operation : Operation} {vm : VirtualMachine}
  {target : ProviderPlacement}

/-- The phase of the row plays no part in the lookup of its VM. -/
theorem getLifecycleVm_of_placed (placed : Placed db operation vm target) {other : Operation}
    (sameVm : other.virtualMachineId = operation.virtualMachineId) :
    getLifecycleVm db other = .ok ⟨vm, target, placed.node, placed.vmid⟩ := by
  simp only [getLifecycleVm, sameVm, placed.vmStored, found_some, ok_bind]
  split
  · rename_i node vmid nodeStored vmidStored
    obtain rfl : target.node = node := Option.some.inj (placed.node.symm.trans nodeStored)
    obtain rfl : target.vmid = vmid := Option.some.inj (placed.vmid.symm.trans vmidStored)
    rfl
  · rename_i incomplete
    exact absurd placed.vmid (incomplete _ _ placed.node)

theorem getMissedVm_of_placed (placed : Placed db operation vm target) :
    getMissedVm db operation = .ok (vm, target) := by
  simp [getMissedVm, placed.vmStored, placed.node, placed.vmid]

theorem buildCreateVmRequest_of_hasSshKey (hasKey : HasSshKey db vm) :
    ∃ request, buildCreateVmRequest db vm = .ok request := by
  rcases hasKey with ⟨keyId, keyIdMem, key, keyMem, owned⟩
  simp only [Option.mem_def] at keyIdMem keyMem
  simp [buildCreateVmRequest, keyIdMem, keyMem, owned]

/-- The request names the VM it was built for. -/
theorem vmId_of_buildCreateVmRequest {request : CreateVmRequest}
    (built : buildCreateVmRequest db vm = .ok request) : request.vmId = vm.id := by
  simp only [buildCreateVmRequest, bind_eq_ok] at built
  rcases built with ⟨_, _, _, _, _, _, result⟩
  cases result
  rfl

end Rows

namespace Position.Matches

variable {operation : Operation} {stage : Stage}

theorem phase_of_pending (atStage : (Position.pending stage).Matches operation) :
    operation.phase = stage.pendingPhase := by
  simpa [Position.phases] using atStage.phase

theorem phase_of_dispatching (atStage : (Position.dispatching stage).Matches operation) :
    operation.phase = some stage.dispatchPhase := by
  simpa [Position.phases] using atStage.phase

theorem phase_of_reconciling (atStage : (Position.reconciling stage).Matches operation) :
    operation.phase = some stage.reconcilePhase := by
  simpa [Position.phases] using atStage.phase

theorem phase_of_polling {backoff : Bool}
    (atStage : (Position.polling stage backoff).Matches operation) :
    operation.phase = some (if backoff then stage.backoffPhase else stage.taskPhase) := by
  cases backoff <;> simpa [Position.phases] using atStage.phase

theorem providerTaskId_eq_none {position : Position} (atPosition : position.Matches operation)
    (noTask : position.hasTask = false) : operation.providerTaskId = none := by
  simpa [noTask] using atPosition.task

end Position.Matches

section Selecting

variable {db : Database} {operation : Operation} {vm : VirtualMachine}
  {target : ProviderPlacement} {stage : Stage}

/-- The marker is stored without any adapter call; only a create needs the SSH key. -/
theorem runSelected_pending (stamp : Time) (placed : Placed db operation vm target)
    (hasKey : stage.operationType = .vmCreate → HasSshKey db vm)
    (atStage : (Position.pending stage).Matches operation) :
    ∃ request, (stage.operationType = .vmCreate → stage ≠ .initialStart →
        ∃ built, buildCreateVmRequest db vm = .ok built ∧ request = some built) ∧
      runSelected stamp db operation = .done (.ok (stage.prepared stamp operation vm,
        some (stage.dispatch operation request target))) := by
  have kind := atStage.operationType
  have pending := atStage.status
  have phase := atStage.phase_of_pending
  have noTask := atStage.providerTaskId_eq_none rfl
  have lifecycle := getLifecycleVm_of_placed placed rfl
  by_cases created : stage.operationType = .vmCreate
  · rcases buildCreateVmRequest_of_hasSshKey (hasKey created) with ⟨request, built⟩
    refine ⟨if stage = .initialStart then none else some request,
      fun _ notStart => ⟨request, built, if_neg notStart⟩, ?_⟩
    cases stage <;> simp only [Stage.operationType, reduceCtorEq] at created <;>
      simp only [Position.operationType, Stage.operationType, Position.status,
        Stage.pendingPhase] at kind pending phase <;>
      simp +decide [runSelected, runCreate, dispatchCreate, prepareCreateVmDispatch, kind,
        pending, phase, noTask, lifecycle, built, placed.vmStored, placed.node, Stage.prepared,
        Stage.dispatch, Stage.dispatchPhase, Stage.markChange, VmChange.write]
  · refine ⟨none, fun isCreate => absurd isCreate created, ?_⟩
    cases stage <;> simp only [Stage.operationType, not_true_eq_false] at created <;>
      simp only [Position.operationType, Stage.operationType, Position.status,
        Stage.pendingPhase] at kind pending phase <;>
      simp +decide [runSelected, runStart, runLifecycle, prepareStartVmDispatch,
        prepareLifecycleDispatch, lifecycleCommand, kind, pending, phase, noTask, lifecycle,
        Stage.prepared, Stage.dispatch, Stage.dispatchPhase, Stage.markChange, VmChange.write,
        VmChange.apply]

/-- Without a placement the first pass asks for one and writes it to the VM. -/
theorem runSelected_unplaced (stamp : Time)
    (vmStored : db.virtualMachine? operation.virtualMachineId = some vm)
    (noNode : vm.providerNode = none) (noVmid : vm.providerVmid = none)
    (hasKey : HasSshKey db vm) (atClone : (Position.pending .clone).Matches operation) :
    ∃ request, buildCreateVmRequest db vm = .ok request ∧
      runSelected stamp db operation = .call (.chooseCloneTarget request) fun answer =>
        .done (answer.map fun target =>
          ({ operation, vm := some ((VmChange.place target).apply vm) }, none)) := by
  rcases buildCreateVmRequest_of_hasSshKey hasKey with ⟨request, built⟩
  have kind := atClone.operationType
  have pending := atClone.status
  have phase := atClone.phase_of_pending
  have noTask := atClone.providerTaskId_eq_none rfl
  simp only [Position.operationType, Stage.operationType, Position.status,
    Stage.pendingPhase] at kind pending phase
  refine ⟨request, built, ?_⟩
  simp only [runSelected, runCreate, processCreateVmOperation, startCreateVmOperation, kind,
    pending, phase, noTask, vmStored, noNode, noVmid, built, found_some, require_of, if_true,
    and_self, Program.liftT_eq, Program.done_ok_bind, Program.perform_eq,
    Program.call_bind]
  congr 1
  funext answer
  cases answer <;> rfl

/-- A stored task is polled once, whatever the poll answers. -/
theorem runSelected_polling (stamp : Time) {backoff : Bool}
    (placed : Placed db operation vm target)
    (atStage : (Position.polling stage backoff).Matches operation) :
    ∃ taskId, operation.providerTaskId = some taskId ∧
      runSelected stamp db operation =
        .call (.getTaskStatus ⟨taskId, target.vmid, target.node⟩) fun answer =>
          .done (.ok (stage.polled stamp operation vm answer, none)) := by
  have kind := atStage.operationType
  have processing := atStage.status
  have phase := atStage.phase_of_polling
  have hasTask := atStage.task
  simp only [Position.hasTask, Option.isSome_iff_exists] at hasTask
  rcases hasTask with ⟨taskId, task⟩
  have lifecycle : ∀ other : Operation, other.virtualMachineId = operation.virtualMachineId →
      getLifecycleVm db other = .ok ⟨vm, target, placed.node, placed.vmid⟩ :=
    fun _ => getLifecycleVm_of_placed placed
  have missed := getMissedVm_of_placed placed
  refine ⟨taskId, task, ?_⟩
  cases stage <;> cases backoff <;>
    simp only [Position.operationType, Stage.operationType, Position.status, Stage.taskPhase,
      Stage.backoffPhase, if_true, Bool.false_eq_true, if_false] at kind processing phase <;>
    simp +decide [runSelected, runCreate, runStart, runLifecycle, Operation.stripPhase,
      Operation.phaseStartswith, processCreateVmOperation, refreshCreateVmOperation,
      processStartVmOperation, processPowerOffVmOperation, processRebootVmOperation,
      processDeleteVmOperation, kind, processing, phase, task, lifecycle, missed,
      placed.vmStored, placed.node, placed.vmid] <;>
    funext answer <;> rcases answer with error | ⟨_ | _ | _, code⟩ <;>
    simp +decide [Stage.polled, Stage.completed, Stage.pollChange, Stage.doneChange,
      Stage.doneStatus, Stage.failChange, Stage.operationType, Stage.next, Stage.pendingPhase,
      Stage.taskPhase, Stage.backoffPhase, VmChange.write, VmChange.apply, Operation.failedWith,
      phaseText, kind, processing, phase, task, placed.node, placed.vmid]

/-- The marker of the stage is stored, before or after a first reconciliation. -/
theorem Position.Matches.phase_of_awaits {position : Position}
    (atPosition : position.Matches operation) (awaits : position.Awaits stage) :
    operation.phase = some stage.dispatchPhase ∨ operation.phase = some stage.reconcilePhase := by
  rcases awaits with rfl | rfl
  · exact .inl atPosition.phase_of_dispatching
  · exact .inr atPosition.phase_of_reconciling

/-- A marked stage is processing and has no task. -/
theorem Position.Matches.of_awaits {position : Position}
    (atPosition : position.Matches operation) (awaits : position.Awaits stage) :
    operation.operationType = stage.operationType ∧ operation.status = .processing ∧
      operation.providerTaskId = none := by
  rcases awaits with rfl | rfl <;>
    exact ⟨atPosition.operationType, atPosition.status, atPosition.providerTaskId_eq_none rfl⟩

/-- A marked stage is reconciled with the power state of the VM. -/
theorem runSelected_awaiting (stamp : Time) {position : Position}
    (placed : Placed db operation vm target) (atPosition : position.Matches operation)
    (awaits : position.Awaits stage) (readable : ¬stage.NeedsReview) :
    runSelected stamp db operation =
      .call (.getVmPowerState vm.id target.node target.vmid) fun answer =>
        .done (.ok (stage.reconciled stamp operation vm answer, none)) := by
  have phase := atPosition.phase_of_awaits awaits
  rcases atPosition.of_awaits awaits with ⟨kind, processing, noTask⟩
  have lifecycle := getLifecycleVm_of_placed placed rfl
  cases stage <;> try exact absurd trivial readable
  all_goals
    simp only [Stage.operationType, Stage.dispatchPhase, Stage.reconcilePhase] at kind phase
    rcases phase with phase | phase <;>
    simp +decide [runSelected, runCreate, runStart, runLifecycle, Operation.phaseStartswith,
      reconcileCreateVmOperation, reconcileStartVmOperation, reconcileLifecycleOperation,
      kind, processing, phase, noTask, lifecycle] <;>
    funext answer <;> rcases answer with error | ⟨_ | _ | _, _ | _⟩ <;>
    simp +decide [Stage.reconciled, Stage.completed, Stage.unknownOutcome,
      Stage.doneChange, Stage.doneStatus, Stage.next, Stage.pendingPhase, Stage.reviewPhase,
      Stage.reconcilePhase, VmChange.write, VmChange.apply, Operation.failedWith,
      Operation.reconcilePhase, createOutcomeUnknown, kind, processing, phase, noTask]

/-- A marked stage which is not safe to repeat goes to an operator. -/
theorem runSelected_needsReview (stamp : Time) {position : Position}
    (placed : Placed db operation vm target) (atPosition : position.Matches operation)
    (awaits : position.Awaits stage) (needsReview : stage.NeedsReview) :
    runSelected stamp db operation =
      .done (.ok ({ operation := stage.unknownOutcome stamp operation }, none)) := by
  have phase := atPosition.phase_of_awaits awaits
  rcases atPosition.of_awaits awaits with ⟨kind, processing, noTask⟩
  have lifecycle := getLifecycleVm_of_placed placed rfl
  cases stage <;> try exact needsReview.elim
  all_goals
    simp only [Stage.operationType, Stage.dispatchPhase, Stage.reconcilePhase] at kind phase
    rcases phase with phase | phase <;>
    simp +decide [runSelected, runCreate, Operation.phaseStartswith,
      reconcileCreateVmOperation, createOutcomeUnknown, Stage.unknownOutcome,
      Stage.reviewPhase, Stage.reconcilePhase, kind, processing, phase, noTask, lifecycle]

end Selecting

end NpdPortal
