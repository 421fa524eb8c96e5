import NpdPortal.Runs.Iteration
import NpdPortal.Worker.FakeIterations

/-!
# One operation with the fake adapter

What a call of `run_once` does to one operation and its VM when the adapter is
the fake one.  The operation passes its stages in order; every call takes it to
the next position and leaves the rows of the other operations and VMs alone.
-/

namespace NpdPortal

/-! ## What is left alone -/

/-- Only rows with these ids differ. -/
structure Database.SameBut (db next : Database) (operations vms : List Uuid) : Prop where
  operationIds : next.operations.map (·.id) = db.operations.map (·.id)
  vmIds : next.virtualMachines.map (·.id) = db.virtualMachines.map (·.id)
  otherOperations : ∀ id ∉ operations, next.operation? id = db.operation? id
  otherVms : ∀ id ∉ vms, next.virtualMachine? id = db.virtualMachine? id
  sshPublicKeys : next.sshPublicKeys = db.sshPublicKeys
  userQuotas : next.userQuotas = db.userQuotas
  computePlans : next.computePlans = db.computePlans

section SameBut

variable {db next later : Database} {operations vms : List Uuid}

theorem Database.SameBut.refl (db : Database) (operations vms : List Uuid) :
    db.SameBut db operations vms :=
  ⟨rfl, rfl, fun _ _ => rfl, fun _ _ => rfl, rfl, rfl, rfl⟩

theorem Database.SameBut.trans (first : db.SameBut next operations vms)
    (second : next.SameBut later operations vms) : db.SameBut later operations vms where
  operationIds := second.operationIds.trans first.operationIds
  vmIds := second.vmIds.trans first.vmIds
  otherOperations id other :=
    (second.otherOperations id other).trans (first.otherOperations id other)
  otherVms id other := (second.otherVms id other).trans (first.otherVms id other)
  sshPublicKeys := second.sshPublicKeys.trans first.sshPublicKeys
  userQuotas := second.userQuotas.trans first.userQuotas
  computePlans := second.computePlans.trans first.computePlans

theorem Database.SameBut.mono (same : db.SameBut next operations vms)
    {moreOperations moreVms : List Uuid} (operationsAmong : operations ⊆ moreOperations)
    (vmsAmong : vms ⊆ moreVms) : db.SameBut next moreOperations moreVms where
  operationIds := same.operationIds
  vmIds := same.vmIds
  otherOperations id other := same.otherOperations id fun idMem => other (operationsAmong idMem)
  otherVms id other := same.otherVms id fun idMem => other (vmsAmong idMem)
  sshPublicKeys := same.sshPublicKeys
  userQuotas := same.userQuotas
  computePlans := same.computePlans

/-- A commit of the worker writes one operation and its VM. -/
theorem Database.flush_sameBut {operation : Operation} {changes : Changes} {change : VmChange}
    {vm : VirtualMachine} {dbNow : Time} (identity : operation.SameIdentity changes.operation)
    (vmStored : db.virtualMachine? operation.virtualMachineId = some vm)
    (written : changes.vm = change.write vm)
    (flushed : db.flush dbNow operation changes = some next) :
    db.SameBut next [operation.id] [operation.virtualMachineId] := by
  have tables := Database.commit_eq_some flushed
  have same := Operation.onUpdate_sameIdentity dbNow identity
  have vmId := (Database.virtualMachine?_eq_some_iff.mp vmStored).2
  have writes : ∀ row ∈ changes.vm, row.id = operation.virtualMachineId := by
    rw [written]
    intro row rowMem
    cases change with
    | keep => cases rowMem
    | _ =>
        cases rowMem
        exact vmId
  constructor
  · rw [tables]
    exact KeyedRows.map_key_replace _ _
  · rw [tables]
    cases changes.vm with
    | none => rfl
    | some row => exact KeyedRows.map_key_replace _ _
  · intro id other
    unfold Database.operation?
    rw [tables]
    apply KeyedRows.lookup_replace_of_ne
    rw [same.id]
    simpa using other
  · intro id other
    unfold Database.virtualMachine?
    rw [tables]
    cases row : changes.vm with
    | none => rfl
    | some written =>
        apply KeyedRows.lookup_replace_of_ne
        rw [writes written row]
        simpa using other
  · rw [tables]
  · rw [tables]
  · rw [tables]

end SameBut

/-! ## The answers of the adapter -/

/-- What a call for one VM leaves of the adapter. -/
structure FakeProxmoxAdapter.Follows (fake next : FakeProxmoxAdapter) (vmid : ℤ) : Prop where
  node : next.node = fake.node
  succeeded : ∀ taskId, fake.taskStatuses taskId = some { status := .succeeded } →
    next.taskStatuses taskId = some { status := .succeeded }
  deleted : ∀ other ≠ vmid, next.deletedVmids other = fake.deletedVmids other

theorem FakeProxmoxAdapter.Follows.refl (fake : FakeProxmoxAdapter) (vmid : ℤ) :
    fake.Follows fake vmid :=
  ⟨rfl, fun _ succeeded => succeeded, fun _ _ => rfl⟩

namespace FakeProxmoxAdapter

variable (fake : FakeProxmoxAdapter)

/-- The placement which the adapter gives a VM. -/
def placement (vmId : Uuid) : ProviderPlacement := ⟨fake.node, vmidForVmId vmId⟩

/-- A new task has succeeded. -/
theorem issue_follows (operationType : String) (vmId : Uuid) (node : String) (vmid : ℤ) :
    fake.Follows (fake.issue operationType vmId node vmid).2 vmid ∧
      (fake.issue operationType vmId node vmid).2.taskStatuses
        (fake.issue operationType vmId node vmid).1.taskId = some { status := .succeeded } := by
  refine ⟨⟨rfl, ?_, fun _ _ => rfl⟩, Function.update_self ..⟩
  intro other succeeded
  by_cases same : other = taskId operationType vmId
  · subst same
    exact Function.update_self ..
  · exact (Function.update_of_ne same ..).trans succeeded

theorem checkTarget_ok (vmId : Uuid) :
    fake.checkTarget vmId fake.node (vmidForVmId vmId) = .ok () := by
  simp [checkTarget]

/-- What the worker needs of the answer to the command of a stage. -/
structure Serves (next : FakeProxmoxAdapter) (stage : Stage) (vmId : Uuid)
    (result : ProviderResult) : Prop where
  follows : fake.Follows next (vmidForVmId vmId)
  /-- Only `configure` ends without a task. -/
  reply : if stage = .configure then stage.reply result = some .done
    else ∃ task : ProviderTask, stage.reply result = some (.task task) ∧ task.node = fake.node ∧
      task.vmid = vmidForVmId vmId ∧ Sql.FitsVarchar 255 task.taskId ∧
      next.taskStatuses task.taskId = some { status := .succeeded }

/-- A new task with whatever the command records besides. -/
theorem serves_of_issue {stage : Stage} {operationType : String} (known : operationType ∈
      ["clone", "resize", "start", "shutdown", "stop", "delete"]) {vmId : Uuid}
    {result : ProviderResult} {next : FakeProxmoxAdapter} (hasTask : stage ≠ .configure)
    (replies : stage.reply result = some (.task
      (fake.issue operationType vmId fake.node (vmidForVmId vmId)).1))
    (node : next.node = fake.node)
    (statuses : next.taskStatuses =
      (fake.issue operationType vmId fake.node (vmidForVmId vmId)).2.taskStatuses)
    (deleted : ∀ other ≠ vmidForVmId vmId, next.deletedVmids other = fake.deletedVmids other) :
    fake.Serves next stage vmId result := by
  rcases fake.issue_follows operationType vmId fake.node (vmidForVmId vmId) with ⟨follows, ended⟩
  rw [← statuses] at ended
  refine ⟨⟨node, ?_, deleted⟩, ?_⟩
  · rw [statuses]
    exact follows.succeeded
  · rw [if_neg hasTask]
    exact ⟨_, replies, rfl, rfl, taskId_fits known vmId, ended⟩

/-- The command of a stage is served. -/
theorem call_command (stage : Stage) {vmId : Uuid} {request : CreateVmRequest}
    (forVm : stage.operationType = .vmCreate → stage ≠ .initialStart → request.vmId = vmId)
    (present : stage = .delete → fake.deletedVmids (vmidForVmId vmId) = false) :
    ∃ answer next, fake.call (stage.command vmId request (fake.placement vmId)) =
        (.ok answer, next) ∧ fake.Serves next stage vmId
          ((stage.command vmId request (fake.placement vmId)).result answer) := by
  have checked := fake.checkTarget_ok vmId
  have powered : ∀ (stage : Stage) (operationType : String) (power : PowerState),
      operationType ∈ ["clone", "resize", "start", "shutdown", "stop", "delete"] →
      stage ≠ .configure → stage ≠ .clone → stage ≠ .delete →
      ∃ answer next, fake.answered (fake.changePower operationType power vmId fake.node
        (vmidForVmId vmId)) = (.ok answer, next) ∧ fake.Serves next stage vmId (.task answer) := by
    intro stage operationType power known hasTask notClone notDelete
    let issued := fake.issue operationType vmId fake.node (vmidForVmId vmId)
    refine ⟨some issued.1, issued.2.withPower (vmidForVmId vmId) (some power), ?_,
      fake.serves_of_issue known hasTask ?_ rfl rfl fun _ _ => rfl⟩
    · simp only [changePower, checked, ok_bind]
      rfl
    · cases stage <;> first
        | rfl
        | contradiction
  cases stage with
  | clone =>
      obtain rfl : request.vmId = vmId := forVm rfl (by decide)
      let vmid := vmidForVmId request.vmId
      let issued := fake.issue "clone" request.vmId fake.node vmid
      refine ⟨{ state := .submitted, task := some issued.1 },
        { issued.2.withPower vmid (some .stopped) with
          createdVms := Function.update fake.createdVms vmid (some request) }, ?_,
        fake.serves_of_issue (by decide) (by decide) rfl rfl rfl fun _ _ => rfl⟩
      simp only [Stage.command, call, cloneVm, placement, checked, ok_bind]
      rfl
  | configure =>
      obtain rfl : request.vmId = vmId := forVm rfl (by decide)
      refine ⟨none, fake, ?_, .refl fake _, rfl⟩
      simp only [Stage.command, call, configureVm, placement, checked, ok_bind]
      rfl
  | resize =>
      obtain rfl : request.vmId = vmId := forVm rfl (by decide)
      let issued := fake.issue "resize" request.vmId fake.node (vmidForVmId request.vmId)
      refine ⟨some issued.1, issued.2, ?_,
        fake.serves_of_issue (by decide) (by decide) rfl rfl rfl fun _ _ => rfl⟩
      simp only [Stage.command, call, resizeVmDisk, placement, checked, ok_bind]
      rfl
  | delete =>
      let vmid := vmidForVmId vmId
      let issued := fake.issue "delete" vmId fake.node vmid
      refine ⟨{ state := .submitted, task := some issued.1 },
        { issued.2.withPower vmid none with
          deletedVmids := Function.update fake.deletedVmids vmid true
          createdVms := Function.update fake.createdVms vmid none }, ?_,
        fake.serves_of_issue (by decide) (by decide) rfl rfl rfl ?_⟩
      · simp only [Stage.command, call, deleteVm, placement, checked, ok_bind, present rfl]
        rfl
      · intro other differs
        exact Function.update_of_ne differs ..
  | initialStart => apply powered .initialStart "start" .running <;> decide
  | start => apply powered .start "start" .running <;> decide
  | rebootStart => apply powered .rebootStart "start" .running <;> decide
  | shutdown => apply powered .shutdown "shutdown" .stopped <;> decide
  | rebootShutdown => apply powered .rebootShutdown "shutdown" .stopped <;> decide
  | stop => apply powered .stop "stop" .stopped <;> decide

end FakeProxmoxAdapter

/-! ## The itinerary -/

/-- The positions between two calls of `run_once`. -/
inductive Position.Visited : Position → Prop where
  | pending (stage : Stage) : Visited (.pending stage)
  | polling (stage : Stage) (hasTask : stage ≠ .configure) : Visited (.polling stage false)
  | succeeded (operationType : OperationType) : Visited (.succeeded operationType)

/-- The commands an operation at this position has sent. -/
def Position.commandsSent : Position → ℕ
  | dispatching stage | polling stage _ => stage.index + 1
  | position => position.stageIndex

/-- The calls of `run_once` from the dispatch of a stage to the end. -/
def Stage.callsLeft : Stage → ℕ
  | clone => 7
  | configure => 5
  | resize | rebootShutdown => 4
  | _ => 2

/-- The calls of `run_once` from this position to the end, once the VM is placed. -/
def Position.callsLeft : Position → ℕ
  | pending stage => stage.callsLeft
  | polling stage _ => stage.callsLeft - 1
  | _ => 0

/-- The choice of the placement takes one more call. -/
def callsLeft (position : Position) (vm : VirtualMachine) : ℕ :=
  position.callsLeft + if vm.providerVmid = none then 1 else 0

theorem Stage.after_visited (stage : Stage) : stage.after.Visited := by
  cases stage <;> first
    | exact .pending _
    | exact .succeeded _

theorem Stage.after_commandsSent (stage : Stage) :
    stage.after.commandsSent = stage.index + 1 := by
  cases stage <;> rfl

/-- The row without its time. -/
def Operation.untimed (operation : Operation) : Operation := { operation with updatedAt := 0 }

/-- The columns of a VM which the worker does not write. -/
def VirtualMachine.requested (vm : VirtualMachine) : VirtualMachine :=
  { vm with status := .pending, providerVmid := none, providerNode := none }

theorem Operation.onUpdate_untimed (before after : Operation) (dbNow : Time) :
    (before.onUpdate after dbNow).untimed = after.untimed := by
  unfold Operation.onUpdate
  split
  · rfl
  · split <;> rfl

@[simp]
theorem VmChange.apply_requested (change : VmChange) (vm : VirtualMachine) :
    (change.apply vm).requested = vm.requested := by
  cases change <;> rfl

/-- The row and the VM, at this position, of an operation which began as `first`. -/
structure Underway (worker : FakeWorker) (first : Operation) (firstVm : VirtualMachine)
    (row : Operation) (vm : VirtualMachine) (position : Position) : Prop where
  stored : worker.db.operation? first.id = some row
  vmStored : worker.db.virtualMachine? first.virtualMachineId = some vm
  identity : first.SameIdentity row
  requested : vm.requested = firstVm.requested
  atPosition : position.Matches row
  attempts : row.attempts = position.commandsSent
  noError : row.lastErrorCode = none
  placement : position = .pending .clone ∧ vm.providerNode = none ∧ vm.providerVmid = none ∨
    vm.providerNode = some worker.fake.node ∧
      vm.providerVmid = some (FakeProxmoxAdapter.vmidForVmId first.virtualMachineId)
  /-- A task that is polled has succeeded. -/
  task : ∀ stage backoff, position = .polling stage backoff → ∃ taskId,
    row.providerTaskId = some taskId ∧
      worker.fake.taskStatuses taskId = some { status := .succeeded }
  /-- The adapter has not deleted the VM which is still to be deleted. -/
  present : position = .pending .delete →
    worker.fake.deletedVmids (FakeProxmoxAdapter.vmidForVmId first.virtualMachineId) = false
  hasKey : first.operationType = .vmCreate → HasSshKey worker.db vm
  ended : ∀ operationType, position = .succeeded operationType →
    vm.status = operationType.doneStatus

section Underway

variable {worker next : FakeWorker} {first row : Operation} {firstVm vm : VirtualMachine}
  {position : Position} {stage : Stage} {clock : Clock}

namespace Underway

theorem rowStored (underway : Underway worker first firstVm row vm position) :
    row ∈ worker.db.operations :=
  (Database.operation?_eq_some_iff.mp underway.stored).1

theorem vmMem (underway : Underway worker first firstVm row vm position) :
    vm ∈ worker.db.virtualMachines :=
  (Database.virtualMachine?_eq_some_iff.mp underway.vmStored).1

theorem rowVmStored (underway : Underway worker first firstVm row vm position) :
    worker.db.virtualMachine? row.virtualMachineId = some vm := by
  rw [underway.identity.virtualMachineId]
  exact underway.vmStored

/-- The placement of a VM that has one. -/
theorem placed (underway : Underway worker first firstVm row vm position)
    (hasVmid : vm.providerVmid ≠ none) :
    Placed worker.db row vm (worker.fake.placement first.virtualMachineId) := by
  rcases underway.placement with ⟨_, _, noVmid⟩ | ⟨node, vmid⟩
  · exact absurd noVmid hasVmid
  · exact ⟨underway.rowVmStored, node, vmid⟩

/-- A commit which takes the row to the next position. -/
theorem flush (underway : Underway worker first firstVm row vm position) (target : Position)
    (change : VmChange) {db : Database} {fake : FakeProxmoxAdapter} {changes : Changes}
    {dbNow : Time} (flushed : worker.db.flush dbNow row changes = some db)
    (written : changes.vm = change.write vm) (identity : row.SameIdentity changes.operation)
    (node : fake.node = worker.fake.node) (atTarget : target.Matches changes.operation)
    (attempts : changes.operation.attempts = target.commandsSent)
    (noError : changes.operation.lastErrorCode = none)
    (placement : (change.apply vm).providerNode = some worker.fake.node ∧
      (change.apply vm).providerVmid =
        some (FakeProxmoxAdapter.vmidForVmId first.virtualMachineId))
    (task : ∀ stage backoff, target = .polling stage backoff → ∃ taskId,
      changes.operation.providerTaskId = some taskId ∧
        fake.taskStatuses taskId = some { status := .succeeded })
    (present : target = .pending .delete →
      fake.deletedVmids (FakeProxmoxAdapter.vmidForVmId first.virtualMachineId) = false)
    (ended : ∀ operationType, target = .succeeded operationType →
      (change.apply vm).status = operationType.doneStatus) :
    Underway ⟨db, fake⟩ first firstVm (row.onUpdate changes.operation dbNow) (change.apply vm)
        target ∧
      worker.db.SameBut db [first.id] [first.virtualMachineId] := by
  have untimed := row.onUpdate_untimed changes.operation dbNow
  have same := Database.flush_sameBut identity underway.rowVmStored written flushed
  have kept : ∀ key ∈ worker.db.sshPublicKeys, key ∈ db.sshPublicKeys := by
    rw [same.sshPublicKeys]
    exact fun _ keyMem => keyMem
  have stored := Database.flush_operation? underway.rowStored identity flushed
  have vmStored := Database.flush_virtualMachine? underway.rowVmStored written flushed
  rw [underway.identity.id] at stored same
  rw [underway.identity.virtualMachineId] at vmStored same
  refine ⟨?_, same⟩
  constructor
  · exact stored
  · exact vmStored
  · exact underway.identity.trans (Operation.onUpdate_sameIdentity dbNow identity)
  · exact (change.apply_requested vm).trans underway.requested
  · exact atTarget.onUpdate dbNow
  · exact (congrArg Operation.attempts untimed).trans attempts
  · exact (congrArg Operation.lastErrorCode untimed).trans noError
  · right
    rw [node]
    exact placement
  · intro stage backoff atPolling
    rcases task stage backoff atPolling with ⟨taskId, isTask, succeeded⟩
    exact ⟨taskId, (congrArg Operation.providerTaskId untimed).trans isTask, succeeded⟩
  · exact present
  · intro isCreate
    exact (underway.hasKey isCreate).mono kept (change.apply_sshPublicKeyId vm)
      (change.apply_ownerUserId vm)
  · exact ended

/-- A commit which confirms the stage. -/
theorem exists_completed (underway : Underway worker first firstVm row vm position)
    (atStage : row.operationType = stage.operationType)
    (sent : row.attempts = stage.index + 1)
    (placement : vm.providerNode = some worker.fake.node ∧ vm.providerVmid =
      some (FakeProxmoxAdapter.vmidForVmId first.virtualMachineId))
    {fake : FakeProxmoxAdapter} (node : fake.node = worker.fake.node) (dbNow : Time) :
    ∃ db, worker.db.flush dbNow row
        { operation := stage.completed row, vm := stage.pollChange.write vm } = some db ∧
      worker.db.SameBut db [first.id] [first.virtualMachineId] ∧
      ∃ later updated, Underway ⟨db, fake⟩ first firstVm later updated stage.after ∧
        updated.providerVmid = vm.providerVmid := by
  have identity := stage.completed_sameIdentity row
  have flushes : ∃ db, worker.db.flush dbNow row
      { operation := stage.completed row, vm := stage.pollChange.write vm } = some db := by
    apply exists_flush_of_kept dbNow underway.rowStored identity underway.vmMem
    · cases stage <;> rintro written ⟨⟩ <;> exact ⟨rfl, rfl, rfl, rfl⟩
    · exact stage.completed_fits atStage
  rcases flushes with ⟨db, flushed⟩
  have arrives : Underway ⟨db, fake⟩ first firstVm (row.onUpdate (stage.completed row) dbNow)
      (stage.pollChange.apply vm) stage.after ∧
        worker.db.SameBut db [first.id] [first.virtualMachineId] := by
    apply underway.flush stage.after stage.pollChange flushed rfl identity node
      (stage.completed_matches atStage)
    · rw [stage.after_commandsSent, ← sent]
      cases stage <;> rfl
    · cases stage <;> rfl
    · cases stage <;> exact placement
    · cases stage <;> simp [Stage.after, Stage.next]
    · cases stage <;> simp [Stage.after, Stage.next]
    · cases stage <;> simp [Stage.after, Stage.next, Stage.operationType, Stage.pollChange,
        Stage.doneChange, Stage.doneStatus, VmChange.newStatus, OperationType.doneStatus]
  refine ⟨db, flushed, arrives.2, _, _, arrives.1, ?_⟩
  cases stage <;> rfl

/-- A commit which stores the task of the stage. -/
theorem exists_awaiting (underway : Underway worker first firstVm row vm (.dispatching stage))
    {fake : FakeProxmoxAdapter} (node : fake.node = worker.fake.node) (task : ProviderTask)
    (fits : Sql.FitsVarchar 255 task.taskId)
    (succeeded : fake.taskStatuses task.taskId = some { status := .succeeded }) (dbNow : Time) :
    ∃ db, worker.db.flush dbNow row
        { operation := stage.withTask row task, vm := stage.taskChange.write vm } = some db ∧
      worker.db.SameBut db [first.id] [first.virtualMachineId] ∧
      ∃ later updated, Underway ⟨db, fake⟩ first firstVm later updated (.polling stage false) ∧
        updated.providerVmid = vm.providerVmid := by
  have identity : row.SameIdentity (stage.withTask row task) := ⟨rfl, rfl, rfl, rfl⟩
  have atPolling : (Position.polling stage false).Matches (stage.withTask row task) :=
    ⟨underway.atPosition.operationType, underway.atPosition.status,
      by simp [Stage.withTask, Position.phases], rfl⟩
  have flushes : ∃ db, worker.db.flush dbNow row
      { operation := stage.withTask row task, vm := stage.taskChange.write vm } = some db := by
    apply exists_flush_of_kept dbNow underway.rowStored identity underway.vmMem
    · intro written writtenMem
      cases stage with
      | clone =>
          cases writtenMem
          exact ⟨rfl, rfl, rfl, rfl⟩
      | _ => cases writtenMem
    · refine ⟨(Position.polling stage false).phases_fit _ atPolling.phase, ?_, ?_⟩
      · rintro code ⟨⟩
      · rintro taskId ⟨⟩
        exact fits
  have placement : vm.providerNode = some worker.fake.node ∧ vm.providerVmid =
      some (FakeProxmoxAdapter.vmidForVmId first.virtualMachineId) := by
    rcases underway.placement with ⟨same, _⟩ | placement
    · cases same
    · exact placement
  rcases flushes with ⟨db, flushed⟩
  have arrives : Underway ⟨db, fake⟩ first firstVm (row.onUpdate (stage.withTask row task) dbNow)
      (stage.taskChange.apply vm) (.polling stage false) ∧
        worker.db.SameBut db [first.id] [first.virtualMachineId] := by
    apply underway.flush (.polling stage false) stage.taskChange flushed rfl identity node atPolling
      underway.attempts rfl
    · cases stage <;> exact placement
    · rintro other backoff ⟨⟩
      exact ⟨task.taskId, rfl, succeeded⟩
    · simp
    · simp
  refine ⟨db, flushed, arrives.2, _, _, arrives.1, ?_⟩
  cases stage <;> rfl

end Underway

/-- A call of `run_once` has taken the operation to where `left` calls are left. -/
structure FakeWorker.TakesTo (worker next : FakeWorker) (first : Operation)
    (firstVm : VirtualMachine) (left : ℕ) : Prop where
  same : worker.db.SameBut next.db [first.id] [first.virtualMachineId]
  follows : worker.fake.Follows next.fake
    (FakeProxmoxAdapter.vmidForVmId first.virtualMachineId)
  underway : ∃ row vm position, Underway next first firstVm row vm position ∧
    position.Visited ∧ callsLeft position vm = left

/-- The first call for a new VM asks for its placement. -/
theorem Underway.runOnce_unplaced
    (underway : Underway worker first firstVm row vm (.pending .clone))
    (noVmid : vm.providerVmid = none) (clock : Clock) :
    worker.runOnce row clock =
      match worker.db.flush clock.dbNow row
        ⟨row, some ((VmChange.place (worker.fake.placement first.virtualMachineId)).apply vm)⟩ with
      | none => .error .integrityError
      | some db => .ok ⟨db, worker.fake⟩ := by
  have noNode : vm.providerNode = none := by
    rcases underway.placement with ⟨_, noNode, _⟩ | ⟨_, vmid⟩
    · exact noNode
    · simp [noVmid] at vmid
  have isCreate : first.operationType = .vmCreate :=
    underway.identity.operationType.symm.trans underway.atPosition.operationType
  rcases runSelected_unplaced clock.stamp underway.rowVmStored noNode noVmid
    (underway.hasKey isCreate) underway.atPosition with ⟨request, built, computed⟩
  have vmId : request.vmId = first.virtualMachineId :=
    (vmId_of_buildCreateVmRequest built).trans
      (Database.virtualMachine?_eq_some_iff.mp underway.vmStored).2
  have chosen : worker.fake.chooseCloneTarget request =
      worker.fake.placement first.virtualMachineId := by
    simp [FakeProxmoxAdapter.chooseCloneTarget, FakeProxmoxAdapter.placement, vmId]
  unfold FakeWorker.runOnce
  cases flushed : worker.db.flush clock.dbNow row
      ⟨row, some ((VmChange.place (worker.fake.placement first.virtualMachineId)).apply vm)⟩ <;>
    simp only [computed, Program.execute_call, Program.execute_done, FakeProxmoxAdapter.call,
      Except.map, chosen, flushed]

theorem Underway.takesTo_of_unplaced
    (underway : Underway worker first firstVm row vm (.pending .clone))
    (noVmid : vm.providerVmid = none) (ran : worker.runOnce row clock = .ok next) :
    worker.TakesTo next first firstVm 7 := by
  rw [underway.runOnce_unplaced noVmid] at ran
  split at ran
  · cases ran
  · rename_i db flushed
    cases ran
    rcases underway.flush (.pending .clone) (.place _) flushed rfl (.refl row) rfl
      underway.atPosition underway.attempts underway.noError ⟨rfl, rfl⟩ (by simp) (by simp)
      (by simp) with ⟨after, same⟩
    exact ⟨same, .refl _ _, _, _, _, after, .pending .clone, rfl⟩

/-- The placement is rejected only when its VMID is in use. -/
theorem Underway.exists_of_unplaced
    (underway : Underway worker first firstVm row vm (.pending .clone))
    (noVmid : vm.providerVmid = none) (clock : Clock)
    (free : FakeProxmoxAdapter.vmidForVmId first.virtualMachineId ∉ worker.db.providerVmids) :
    ∃ next, worker.runOnce row clock = .ok next := by
  let target := worker.fake.placement first.virtualMachineId
  have commits : ∃ db, worker.db.flush clock.dbNow row
      ⟨row, some ((VmChange.place target).apply vm)⟩ = some db :=
    (Database.placement_flush_iff clock.dbNow underway.rowStored underway.vmMem noVmid).mpr
      ⟨free, FakeProxmoxAdapter.vmidForVmId_fits _, worker.fake.nodeText⟩
  rcases commits with ⟨db, flushed⟩
  refine ⟨⟨db, worker.fake⟩, ?_⟩
  rw [underway.runOnce_unplaced noVmid, flushed]

/-- A task is polled once: it has succeeded. -/
theorem Underway.takesTo_of_polling {backoff : Bool}
    (underway : Underway worker first firstVm row vm (.polling stage backoff))
    (hasTask : stage ≠ .configure) (clock : Clock) :
    ∃ next, worker.runOnce row clock = .ok next ∧
      worker.TakesTo next first firstVm (stage.callsLeft - 2) := by
  have placement : vm.providerNode = some worker.fake.node ∧ vm.providerVmid =
      some (FakeProxmoxAdapter.vmidForVmId first.virtualMachineId) := by
    rcases underway.placement with ⟨same, _⟩ | placement
    · cases same
    · exact placement
  have hasVmid : vm.providerVmid ≠ none := by simp [placement.2]
  rcases runSelected_polling clock.stamp (underway.placed hasVmid) underway.atPosition with
    ⟨taskId, stored, computed⟩
  rcases underway.task stage backoff rfl with ⟨other, isTask, succeeded⟩
  rcases Option.some.inj (stored.symm.trans isTask) with rfl
  have answered : worker.fake.getTaskStatus ⟨taskId,
      (worker.fake.placement first.virtualMachineId).vmid,
      (worker.fake.placement first.virtualMachineId).node⟩ =
        .ok { status := .succeeded } := by
    simp [FakeProxmoxAdapter.getTaskStatus, succeeded]
  rcases underway.exists_completed underway.atPosition.operationType underway.attempts placement
    (rfl : worker.fake.node = worker.fake.node) clock.dbNow with
    ⟨db, flushed, same, later, updated, after, sameVmid⟩
  refine ⟨⟨db, worker.fake⟩, ?_, same, .refl _ _, later, updated, _, after, stage.after_visited, ?_⟩
  · unfold FakeWorker.runOnce
    simp only [computed, Program.execute_call, Program.execute_done, FakeProxmoxAdapter.call,
      answered, Stage.polled]
    rw [flushed]
  · rw [callsLeft, sameVmid, if_neg hasVmid]
    cases stage <;> first
      | rfl
      | contradiction

/-- The command of a stage is sent once, and its answer is stored. -/
theorem Underway.takesTo_of_pending
    (underway : Underway worker first firstVm row vm (.pending stage))
    (hasVmid : vm.providerVmid ≠ none) (clock : Clock) :
    ∃ next, worker.runOnce row clock = .ok next ∧
      worker.TakesTo next first firstVm (stage.callsLeft - 1) := by
  have placed := underway.placed hasVmid
  have kind : first.operationType = stage.operationType :=
    underway.identity.operationType.symm.trans underway.atPosition.operationType
  rcases runSelected_pending clock.stamp placed
    (fun isCreate => underway.hasKey (kind.trans isCreate)) underway.atPosition with
    ⟨request, given, computed⟩
  rcases exists_marked underway.rowStored placed underway.atPosition clock.stamp clock.dbNow with
    ⟨marked, markedRow, flushed, isRow, _, atRow, _, _, storing⟩
  have marking : Underway ⟨marked, worker.fake⟩ first firstVm markedRow (stage.markChange.apply vm)
      (.dispatching stage) ∧ worker.db.SameBut marked [first.id] [first.virtualMachineId] := by
    rw [isRow]
    have prepared : (stage.prepared clock.stamp row vm).Refines .marked (.pending stage) row vm
        (.dispatching stage) := Stage.prepared_refines underway.atPosition
    rcases prepared with ⟨_, _, atMarked, identity, _⟩
    apply underway.flush (.dispatching stage) stage.markChange flushed rfl identity rfl atMarked
      (congrArg (· + 1) underway.attempts) underway.noError
    · cases stage <;> exact ⟨placed.node, placed.vmid⟩
    · simp
    · simp
    · simp
  rcases marking with ⟨middle, same⟩
  -- The call that the dispatch makes.
  have vmId := (Database.virtualMachine?_eq_some_iff.mp underway.vmStored).2
  have built : ∃ built : CreateVmRequest, stage.operationType = .vmCreate →
      stage ≠ .initialStart → request = some built ∧ built.vmId = first.virtualMachineId := by
    by_cases creates : stage.operationType = .vmCreate ∧ stage ≠ .initialStart
    · rcases given creates.1 creates.2 with ⟨built, isBuilt, same⟩
      exact ⟨built, fun _ _ => ⟨same, (vmId_of_buildCreateVmRequest isBuilt).trans vmId⟩⟩
    · exact ⟨⟨vm.id, "", 0, 0, 0, ""⟩,
        fun isCreate notStart => absurd ⟨isCreate, notStart⟩ creates⟩
  rcases built with ⟨built, isBuilt⟩
  have submits := stage.submit_eq row built (worker.fake.placement first.virtualMachineId)
    fun isCreate notStart => (isBuilt isCreate notStart).1
  rw [underway.identity.virtualMachineId] at submits
  rcases worker.fake.call_command stage (fun isCreate notStart => (isBuilt isCreate notStart).2)
    (fun isDelete => underway.present (congrArg Position.pending isDelete)) with
    ⟨answer, fake, called, serves⟩
  let result := (stage.command first.virtualMachineId built
    (worker.fake.placement first.virtualMachineId)).result answer
  have submitted : (stage.dispatch row request
      (worker.fake.placement first.virtualMachineId)).submit.execute FakeProxmoxAdapter.call
        worker.fake = (.ok result, fake) := by
    rw [submits, Program.execute_call, Program.execute_done, called]
    rfl
  -- What the storing transaction writes for it.
  have stores : ∃ db, World.storeDatabase marked (stage.dispatch row request
      (worker.fake.placement first.virtualMachineId)) (.ok result) clock.storeStamp
        clock.storeDbNow = some db ∧ marked.SameBut db [first.id] [first.virtualMachineId] ∧
      ∃ later updated position, Underway ⟨db, fake⟩ first firstVm later updated position ∧
        updated.providerVmid ≠ none ∧ position.Visited ∧
        position.callsLeft = stage.callsLeft - 1 := by
    have isPlaced : (stage.markChange.apply vm).providerNode = some worker.fake.node ∧
        (stage.markChange.apply vm).providerVmid =
          some (FakeProxmoxAdapter.vmidForVmId first.virtualMachineId) := by
      cases stage <;> exact ⟨placed.node, placed.vmid⟩
    have keepsVmid : (stage.markChange.apply vm).providerVmid ≠ none := by simp [isPlaced.2]
    have replies := serves.reply
    rw [storing]
    by_cases noTask : stage = .configure
    · subst noTask
      have kind : markedRow.operationType = Stage.configure.operationType := atRow.operationType
      rcases middle.exists_completed kind middle.attempts isPlaced
        serves.follows.node clock.storeDbNow with
        ⟨db, flushed, same, later, updated, after, sameVmid⟩
      refine ⟨db, ?_, same, later, updated, _, after, sameVmid ▸ keepsVmid, .pending .resize, rfl⟩
      rw [if_pos rfl] at replies
      simp only [Stage.storing, result, replies, Option.bind_some, Stage.replied]
      exact flushed
    · rw [if_neg noTask] at replies
      rcases replies with ⟨task, isTask, node, vmid, fits, succeeded⟩
      rcases middle.exists_awaiting serves.follows.node task fits succeeded clock.storeDbNow with
        ⟨db, flushed, same, later, updated, after, sameVmid⟩
      refine ⟨db, ?_, same, later, updated, _, after, sameVmid ▸ keepsVmid,
        .polling stage noTask, rfl⟩
      have addressed : task.node = (worker.fake.placement first.virtualMachineId).node ∧
          task.vmid = (worker.fake.placement first.virtualMachineId).vmid := ⟨node, vmid⟩
      simp only [Stage.storing, result, isTask, Option.bind_some, Stage.replied, if_pos addressed]
      exact flushed
  rcases stores with ⟨db, stored, sameAfter, later, updated, position, after, stillPlaced, visited,
    left⟩
  refine ⟨⟨db, fake⟩, ?_, same.trans sameAfter, serves.follows, later, updated, position, after,
    visited, ?_⟩
  · unfold FakeWorker.runOnce
    simp only [computed, Program.execute_done, flushed, submitted, stored, Option.getD_some]
  · rw [callsLeft, left, if_neg stillPlaced]
    rfl

/-- A selected row goes one position further. -/
theorem Underway.takesTo (underway : Underway worker first firstVm row vm position)
    (visited : position.Visited) (eligible : row.Eligible clock.now)
    (ran : worker.runOnce row clock = .ok next) :
    ∃ left, callsLeft position vm = left + 1 ∧ worker.TakesTo next first firstVm left := by
  have due := underway.atPosition.eligible_iff_due.mp eligible
  cases visited with
  | pending stage =>
      by_cases noVmid : vm.providerVmid = none
      · rcases underway.placement with ⟨⟨⟩, _, _⟩ | ⟨_, vmid⟩
        · exact ⟨7, by simp [callsLeft, Position.callsLeft, Stage.callsLeft, noVmid],
            underway.takesTo_of_unplaced noVmid ran⟩
        · simp [noVmid] at vmid
      · rcases underway.takesTo_of_pending noVmid clock with ⟨reached, computed, takes⟩
        rcases Except.ok.inj (ran.symm.trans computed) with rfl
        refine ⟨_, ?_, takes⟩
        rw [callsLeft, if_neg noVmid]
        cases stage <;> rfl
  | polling stage hasTask =>
      rcases underway.takesTo_of_polling hasTask clock with ⟨reached, computed, takes⟩
      rcases Except.ok.inj (ran.symm.trans computed) with rfl
      refine ⟨_, ?_, takes⟩
      rcases underway.placement with ⟨⟨⟩, _⟩ | ⟨_, vmid⟩
      rw [callsLeft, if_neg (by simp [vmid])]
      cases stage <;> rfl
  | succeeded operationType => exact False.elim due

/-- Only a VMID in use stops a selected row. -/
theorem Underway.exists_next (underway : Underway worker first firstVm row vm position)
    (visited : position.Visited) (eligible : row.Eligible clock.now)
    (free : vm.providerVmid = none →
      FakeProxmoxAdapter.vmidForVmId first.virtualMachineId ∉ worker.db.providerVmids) :
    ∃ next, worker.runOnce row clock = .ok next := by
  have due := underway.atPosition.eligible_iff_due.mp eligible
  cases visited with
  | pending stage =>
      by_cases noVmid : vm.providerVmid = none
      · rcases underway.placement with ⟨⟨⟩, _, _⟩ | ⟨_, vmid⟩
        · exact underway.exists_of_unplaced noVmid clock (free noVmid)
        · simp [noVmid] at vmid
      · rcases underway.takesTo_of_pending noVmid clock with ⟨reached, computed, _⟩
        exact ⟨reached, computed⟩
  | polling stage hasTask =>
      rcases underway.takesTo_of_polling hasTask clock with ⟨reached, computed, _⟩
      exact ⟨reached, computed⟩
  | succeeded operationType => exact False.elim due

/-- A call for another operation on another VM leaves the operation where it is. -/
theorem Underway.frame (underway : Underway worker first firstVm row vm position)
    {moved : Operation} {movedVm : VirtualMachine} {left : ℕ}
    (taken : worker.TakesTo next moved movedVm left) (differ : first.id ≠ moved.id)
    (differVm : first.virtualMachineId ≠ moved.virtualMachineId)
    (differVmid : FakeProxmoxAdapter.vmidForVmId first.virtualMachineId ≠
      FakeProxmoxAdapter.vmidForVmId moved.virtualMachineId) :
    Underway next first firstVm row vm position where
  stored := (taken.same.otherOperations first.id (by simpa using differ)).trans underway.stored
  vmStored := (taken.same.otherVms first.virtualMachineId (by simpa using differVm)).trans
    underway.vmStored
  identity := underway.identity
  requested := underway.requested
  atPosition := underway.atPosition
  attempts := underway.attempts
  noError := underway.noError
  placement := by
    rw [taken.follows.node]
    exact underway.placement
  task stage backoff atPolling := by
    rcases underway.task stage backoff atPolling with ⟨taskId, isTask, succeeded⟩
    exact ⟨taskId, isTask, taken.follows.succeeded taskId succeeded⟩
  present toDelete := (taken.follows.deleted _ differVmid).trans (underway.present toDelete)
  hasKey isCreate := by
    have kept : ∀ key ∈ worker.db.sshPublicKeys, key ∈ next.db.sshPublicKeys := by
      rw [taken.same.sshPublicKeys]
      exact fun _ keyMem => keyMem
    exact (underway.hasKey isCreate).mono kept rfl rfl
  ended := underway.ended

/-- Selected at any time, until it has succeeded. -/
theorem Underway.eligible_iff (underway : Underway worker first firstVm row vm position)
    (visited : position.Visited) (now : Time) :
    row.Eligible now ↔ 0 < callsLeft position vm := by
  rw [underway.atPosition.eligible_iff_due]
  cases visited with
  | pending stage =>
      have some : 0 < stage.callsLeft := by cases stage <;> decide
      simp [Position.Due, callsLeft, Position.callsLeft, some]
  | polling stage hasTask =>
      have some : 1 < stage.callsLeft := by cases stage <;> decide
      simp [Position.Due, callsLeft, Position.callsLeft, some]
  | succeeded operationType =>
      rcases underway.placement with ⟨⟨⟩, _⟩ | ⟨_, vmid⟩
      simp [Position.Due, callsLeft, Position.callsLeft, vmid]

end Underway

end NpdPortal
