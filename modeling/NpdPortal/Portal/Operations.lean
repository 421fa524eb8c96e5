import NpdPortal.Library.Text
import NpdPortal.Portal.Contracts

/-!
# Operation services

The functions of `operations/services.py`.  A function that may call the
adapter is a `Txn` program; one that may not is a plain `Except` computation.
Each returns the rows it wants written.  `stamp` is the value of
`datetime.now(UTC)` inside the function.
-/

namespace NpdPortal

open PyString

/-- The rows a service function has modified; `vm` is absent when it touched none. -/
structure Changes where
  operation : Operation
  vm : Option VirtualMachine := none
  deriving DecidableEq, Repr

/-- The text an f-string prints for a nullable phase. -/
def phaseText : Option String → String
  | none => "None"
  | some phase => phase

/-- A VM with the placement it is stored with. -/
structure LifecycleVm where
  vm : VirtualMachine
  target : ProviderPlacement
  /-- The placement is read from the row. -/
  placed : vm.providerNode = some target.node ∧ vm.providerVmid = some target.vmid

/-- `_get_lifecycle_vm`. -/
def getLifecycleVm (db : Database) (operation : Operation) : Except Error LifecycleVm := do
  let vm ← found (db.virtualMachine? operation.virtualMachineId)
    (.runtimeError "virtual machine is missing")
  match node : vm.providerNode, vmid : vm.providerVmid with
  | some storedNode, some storedVmid => pure ⟨vm, ⟨storedNode, storedVmid⟩, node, vmid⟩
  | _, _ => throw (.runtimeError "virtual machine has incomplete provider placement")

/-- `_build_create_vm_request`. -/
def buildCreateVmRequest (db : Database) (vm : VirtualMachine) :
    Except Error CreateVmRequest := do
  let keyId ← found vm.sshPublicKeyId (.runtimeError "virtual machine has no SSH public key")
  let sshKey ← found (db.sshPublicKey? keyId)
    (.runtimeError "virtual machine references missing SSH public key")
  require (sshKey.ownerUserId = vm.ownerUserId)
    (.runtimeError "SSH public key belongs to another user")
  pure {
    vmId := vm.id
    imageId := vm.imageId
    vcpus := vm.requestedVcpus
    memoryMb := vm.requestedMemoryMb
    storageGb := vm.requestedStorageGb
    sshPublicKey := sshKey.publicKey }

/-- The task must address the VM it was requested for. -/
def checkTaskTarget (task : ProviderTask) (target : ProviderPlacement) : Except Error Unit :=
  require (task.node = target.node ∧ task.vmid = target.vmid)
    (.runtimeError "provider task targets another virtual machine")

/-! ## vm.create -/

def startCreateVmOperation (stamp : Time) (db : Database) (operation : Operation) :
    Txn Changes := do
  require (operation.operationType = .vmCreate) (.runtimeError "invalid operation type")
  require (operation.status = .pending) (.runtimeError "operation is not pending")
  require (operation.providerTaskId = none) (.runtimeError "operation has already been started")
  require (operation.phase = some "clone") (.runtimeError "operation is not in clone phase")
  let vm ← found (db.virtualMachine? operation.virtualMachineId)
    (.runtimeError "virtual machine is missing")
  let request ← buildCreateVmRequest db vm
  match vm.providerNode, vm.providerVmid with
  | none, none =>
      -- The first pass only chooses the placement.
      let target ← Adapter.chooseCloneTarget request
      pure { operation, vm := some { vm with
        providerNode := some target.node, providerVmid := some target.vmid } }
  | some node, some vmid =>
      let result ← Adapter.cloneVm request ⟨node, vmid⟩
      match result.state, result.task with
      | .submitted, none => Program.raise (.runtimeError "submitted clone has no provider task")
      | .submitted, some task =>
          checkTaskTarget task ⟨node, vmid⟩
          pure {
            operation := { operation with
              providerTaskId := some task.taskId, status := .processing }
            vm := some { vm with status := .provisioning } }
      | .inProgress, some _ =>
          Program.raise (.runtimeError "recovered clone unexpectedly has a provider task")
      | .inProgress, none =>
          pure {
            operation := { operation with updatedAt := stamp }
            vm := some { vm with status := .provisioning } }
      | .succeeded, some _ =>
          Program.raise (.runtimeError "recovered clone unexpectedly has a provider task")
      | .succeeded, none =>
          pure {
            operation := { operation with
              phase := some "configure", status := .pending, providerTaskId := none,
              lastErrorCode := none }
            vm := some { vm with status := .provisioning } }
  | _, _ => Program.raise (.runtimeError "incomplete provider placement")

/-- `task_status.error_code or "provider_task_failed"`. -/
def failureCode (status : ProviderTaskStatus) : String :=
  match status.errorCode with
  | none => "provider_task_failed"
  | some code => if code = "" then "provider_task_failed" else code

def refreshCreateVmOperation (stamp : Time) (db : Database) (operation : Operation) :
    Txn Changes := do
  require (operation.operationType = .vmCreate) (.runtimeError "invalid operation type")
  require (operation.status = .processing) (.runtimeError "operation is not processing")
  let taskId ← found operation.providerTaskId (.runtimeError "operation has no provider task id")
  let vm ← found (db.virtualMachine? operation.virtualMachineId)
    (.runtimeError "virtual machine is missing")
  let vmid ← found vm.providerVmid (.runtimeError "virtual machine has no provider VMID")
  let node ← found vm.providerNode (.runtimeError "virtual machine has no provider node")
  let taskStatus ← Adapter.getTaskStatus ⟨taskId, vmid, node⟩
  match taskStatus.status with
  | .running => pure { operation := { operation with lastErrorCode := none, updatedAt := stamp } }
  | .succeeded =>
      let done := { operation with providerTaskId := none, lastErrorCode := none }
      if operation.phase = some "clone" then
        pure { operation := { done with phase := some "configure", status := .pending } }
      else if operation.phase = some "configure" then
        pure { operation := { done with phase := some "resize", status := .pending } }
      else if operation.phase = some "resize" then
        pure { operation := { done with phase := some "start", status := .pending } }
      else if operation.phase = some "start" then
        pure {
          operation := { done with phase := some "complete", status := .succeeded }
          vm := some { vm with status := .running } }
      else
        Program.raise (.runtimeError ("unsupported create phase: " ++ phaseText operation.phase))
  | .failed =>
      pure {
        operation := { operation with
          status := .failed, lastErrorCode := some (failureCode taskStatus) }
        vm := some { vm with status := .failed } }

/-- The VM and placement which the direct create steps read. -/
def getMissedVm (db : Database) (operation : Operation) :
    Except Error (VirtualMachine × ProviderPlacement) := do
  let vm ← found (db.virtualMachine? operation.virtualMachineId)
    (.runtimeError "virtual machine is missed")
  let node ← found vm.providerNode (.runtimeError "virtual machine provider node is missed")
  let vmid ← found vm.providerVmid (.runtimeError "virtual machine provider vmid is missed")
  pure (vm, ⟨node, vmid⟩)

def startConfigureVmOperation (db : Database) (operation : Operation) : Txn Changes := do
  require (operation.status = .pending) (.runtimeError "operation is not pending")
  require (operation.phase = some "configure")
    (.runtimeError "operation phase is not configure")
  let (vm, target) ← getMissedVm db operation
  let request ← buildCreateVmRequest db vm
  let task ← Adapter.configureVm request target
  match task with
  | none => pure { operation := { operation with
      phase := some "resize", status := .pending, providerTaskId := none } }
  | some task => pure { operation := { operation with
      phase := some "configure", status := .processing, providerTaskId := some task.taskId } }

def startResizeVmOperation (db : Database) (operation : Operation) : Txn Changes := do
  require (operation.status = .pending) (.runtimeError "operation is not pending")
  require (operation.phase = some "resize") (.runtimeError "operation phase is not resize")
  let (vm, target) ← getMissedVm db operation
  let request ← buildCreateVmRequest db vm
  let task ← Adapter.resizeVmDisk request target
  match task with
  | none => pure { operation := { operation with
      phase := some "start", status := .pending, providerTaskId := none } }
  | some task => pure { operation := { operation with
      status := .processing, providerTaskId := some task.taskId } }

def startInitialVmOperation (db : Database) (operation : Operation) : Txn Changes := do
  require (operation.status = .pending) (.runtimeError "operation is not pending")
  require (operation.phase = some "start") (.runtimeError "operation phase is not start")
  let (vm, target) ← getMissedVm db operation
  let task ← Adapter.startVm vm.id target
  match task with
  | none => pure {
      operation := { operation with
        phase := some "complete", status := .succeeded, providerTaskId := none,
        lastErrorCode := none }
      vm := some { vm with status := .running } }
  | some task => pure { operation := { operation with
      providerTaskId := some task.taskId, status := .processing } }

def processCreateVmOperation (stamp : Time) (db : Database) (operation : Operation) :
    Txn Changes :=
  match operation.status with
  | .pending =>
      if operation.phase = some "clone" then startCreateVmOperation stamp db operation
      else if operation.phase = some "configure" then startConfigureVmOperation db operation
      else if operation.phase = some "resize" then startResizeVmOperation db operation
      else if operation.phase = some "start" then startInitialVmOperation db operation
      else
        Program.raise (.runtimeError ("unsupported create phase: " ++ phaseText operation.phase))
  | .processing => refreshCreateVmOperation stamp db operation
  | _ => Program.raise (.runtimeError "operation cannot be processed")

def prepareCreateVmDispatch (stamp : Time) (db : Database) (operation : Operation) :
    Except Error (Changes × Option CreateVmRequest × ProviderPlacement) := do
  require (operation.operationType = .vmCreate ∧ operation.status = .pending)
    (.runtimeError "operation is not a pending VM create")
  require (operation.providerTaskId = none)
    (.runtimeError "pending create already has a provider task")
  let unsupported := .runtimeError ("unsupported create phase: " ++ phaseText operation.phase)
  let phase ← found operation.phase unsupported
  require (phase ∈ ["clone", "configure", "resize", "start"]) unsupported
  let lifecycleVm ← getLifecycleVm db operation
  let request ← if phase = "start" then pure none
    else some <$> buildCreateVmRequest db lifecycleVm.vm
  pure ({ operation := { operation with
      status := .processing
      phase := some ("dispatch_create_" ++ phase)
      attempts := operation.attempts + 1
      updatedAt := stamp } },
    request, lifecycleVm.target)

def finishCreateVmDispatch (stamp : Time) (db : Database) (operation : Operation)
    (phase : String) (result : ProviderResult) : Except Error Changes := do
  require (operation.operationType = .vmCreate ∧ operation.status = .processing)
    (.runtimeError "operation is not dispatching VM create")
  require (operation.phase = some ("dispatch_create_" ++ phase) ∧
      operation.providerTaskId = none)
    (.runtimeError "VM create dispatch state changed")
  let ⟨vm, target, _⟩ ← getLifecycleVm db operation
  if phase = "clone" then
    match result with
    | .clone ⟨.inProgress, none⟩ => pure {
        operation := { operation with
          phase := some "reconcile_create_clone"
          lastErrorCode := some "provider_outcome_unknown"
          updatedAt := stamp }
        vm := some { vm with status := .provisioning } }
    | .clone ⟨.inProgress, some _⟩ =>
        throw (.runtimeError "in-progress clone unexpectedly has a provider task")
    | .clone ⟨.succeeded, none⟩ => pure {
        operation := { operation with
          status := .pending, phase := some "configure", lastErrorCode := none }
        vm := some { vm with status := .provisioning } }
    | .clone ⟨.succeeded, some _⟩ =>
        throw (.runtimeError "completed clone unexpectedly has a provider task")
    | .clone ⟨.submitted, none⟩ =>
        throw (.runtimeError "submitted clone has no provider task")
    | .clone ⟨.submitted, some task⟩ => do
        checkTaskTarget task target
        pure {
          operation := { operation with
            providerTaskId := some task.taskId, phase := some phase, lastErrorCode := none }
          vm := some { vm with status := .provisioning } }
    | _ => throw (.runtimeError "invalid provider clone result")
  else
    match result with
    | .task (some task) => do
        checkTaskTarget task target
        pure { operation := { operation with
          providerTaskId := some task.taskId, phase := some phase, lastErrorCode := none } }
    | .task none =>
        if phase = "configure" then pure { operation := { operation with
          status := .pending, phase := some "resize", lastErrorCode := none } }
        else if phase = "resize" then pure { operation := { operation with
          status := .pending, phase := some "start", lastErrorCode := none } }
        else if phase = "start" then pure {
          operation := { operation with
            status := .succeeded, phase := some "complete", lastErrorCode := none }
          vm := some { vm with status := .running } }
        else throw (.runtimeError ("unsupported create dispatch phase: " ++ phase))
    | _ => throw (.runtimeError "invalid provider task result")

/-- The phases `reconcile_create_vm_operation` accepts. -/
def createReconciliationPhases : List String :=
  ["dispatch_create_clone", "reconcile_create_clone",
    "dispatch_create_configure", "reconcile_create_configure",
    "dispatch_create_resize", "reconcile_create_resize",
    "dispatch_create_start", "reconcile_create_start"]

/-- The end of a create reconciliation that confirmed nothing. -/
def createOutcomeUnknown (stamp : Time) (operation : Operation) (phase : String) : Operation :=
  { operation with
    phase := some (
      if endswith phase "_configure" ∨ endswith phase "_resize" then
        -- Repeating configure or resize is not safe without checking the parameters.
        replace1 (replace1 phase "dispatch_" "needs_review_") "reconcile_" "needs_review_"
      else replace1 phase "dispatch_" "reconcile_")
    lastErrorCode := some "provider_outcome_unknown"
    updatedAt := stamp }

def reconcileCreateVmOperation (stamp : Time) (db : Database) (operation : Operation) :
    Txn Changes := do
  require (operation.operationType = .vmCreate ∧ operation.status = .processing)
    (.runtimeError "invalid create operation")
  require (operation.providerTaskId = none)
    (.runtimeError "reconciling create already has a provider task")
  let unsupported :=
    .runtimeError ("unsupported create reconciliation phase: " ++ phaseText operation.phase)
  let phase ← found operation.phase unsupported
  require (phase ∈ createReconciliationPhases) unsupported
  let ⟨vm, target, _⟩ ← getLifecycleVm db operation
  if endswith phase "_clone" ∨ endswith phase "_start" then
    let state ← Adapter.getVmPowerState vm.id target
    if endswith phase "_clone" ∧ state.status = .stopped ∧ ¬state.locked then
      pure {
        operation := { operation with
          status := .pending, phase := some "configure", lastErrorCode := none }
        vm := some { vm with status := .provisioning } }
    else if endswith phase "_start" ∧ state.status = .running ∧ ¬state.locked then
      pure {
        operation := { operation with
          status := .succeeded, phase := some "complete", lastErrorCode := none }
        vm := some { vm with status := .running } }
    else
      pure { operation := createOutcomeUnknown stamp operation phase }
  else
    pure { operation := createOutcomeUnknown stamp operation phase }

/-! ## vm.start -/

def processStartVmOperation (stamp : Time) (db : Database) (operation : Operation) :
    Txn Changes := do
  require (operation.operationType = .vmStart) (.runtimeError "invalid operation type")
  require (operation.status = .processing) (.runtimeError "operation cannot be processed")
  let (vm, target) ← getMissedVm db operation
  let taskId ← found operation.providerTaskId
    (.runtimeError "processing operation has no provider task")
  let taskStatus ← Adapter.getTaskStatus ⟨taskId, target.vmid, target.node⟩
  match taskStatus.status with
  | .running => pure { operation := { operation with
      phase := some "await_task", lastErrorCode := none, updatedAt := stamp } }
  | .succeeded => pure {
      operation := { operation with
        status := .succeeded, phase := some "complete", providerTaskId := none,
        lastErrorCode := none }
      vm := some { vm with status := .running } }
  | .failed => pure { operation := { operation with
      status := .failed, lastErrorCode := some (failureCode taskStatus) } }

def prepareStartVmDispatch (stamp : Time) (db : Database) (operation : Operation) :
    Except Error (Changes × ProviderPlacement) := do
  require (operation.operationType = .vmStart ∧ operation.status = .pending)
    (.runtimeError "operation is not a pending VM start")
  require (operation.providerTaskId = none)
    (.runtimeError "pending operation already has a provider task")
  let lifecycleVm ← getLifecycleVm db operation
  pure ({ operation := { operation with
      status := .processing
      phase := some "dispatching"
      attempts := operation.attempts + 1
      updatedAt := stamp } },
    lifecycleVm.target)

def finishStartVmDispatch (db : Database) (operation : Operation)
    (task : Option ProviderTask) : Except Error Changes := do
  require (operation.operationType = .vmStart ∧ operation.phase = some "dispatching")
    (.runtimeError "VM start is not dispatching")
  require (operation.status = .processing ∧ operation.providerTaskId = none)
    (.runtimeError "invalid VM start dispatch state")
  let ⟨vm, target, _⟩ ← getLifecycleVm db operation
  match task with
  | none => pure {
      operation := { operation with
        status := .succeeded, phase := some "complete", lastErrorCode := none }
      vm := some { vm with status := .running } }
  | some task => do
      checkTaskTarget task target
      pure { operation := { operation with
        providerTaskId := some task.taskId, phase := some "await_task",
        lastErrorCode := none } }

def reconcileStartVmOperation (stamp : Time) (db : Database) (operation : Operation) :
    Txn Changes := do
  require (operation.operationType = .vmStart ∧ operation.status = .processing)
    (.runtimeError "invalid VM start operation")
  require (operation.phase = some "dispatching" ∨ operation.phase = some "reconcile")
    (.runtimeError "VM start does not need reconciliation")
  require (operation.providerTaskId = none)
    (.runtimeError "reconciling operation already has a provider task")
  let ⟨vm, target, _⟩ ← getLifecycleVm db operation
  let state ← Adapter.getVmPowerState vm.id target
  if state.status = .running ∧ ¬state.locked then
    pure {
      operation := { operation with
        status := .succeeded, phase := some "complete", lastErrorCode := none }
      vm := some { vm with status := .running } }
  else
    pure { operation := { operation with
      phase := some "reconcile"
      lastErrorCode := some "provider_outcome_unknown"
      updatedAt := stamp } }

/-! ## vm.shutdown, vm.stop, vm.reboot and vm.delete -/

/-- The command of a pending lifecycle operation. -/
def lifecycleCommand (operation : Operation) : Except Error String :=
  match operation.operationType with
  | .vmShutdown => pure "shutdown"
  | .vmStop => pure "stop"
  | .vmDelete => pure "delete"
  | .vmReboot =>
      if operation.phase = some "shutdown" then pure "shutdown"
      else if operation.phase = some "start" then pure "start"
      else throw (.runtimeError "unsupported lifecycle operation")
  | _ => throw (.runtimeError "unsupported lifecycle operation")

def prepareLifecycleDispatch (stamp : Time) (db : Database) (operation : Operation) :
    Except Error (Changes × String × ProviderPlacement) := do
  require (operation.status = .pending ∧ operation.providerTaskId = none)
    (.runtimeError "lifecycle operation is not ready for dispatch")
  let command ← lifecycleCommand operation
  let lifecycleVm ← getLifecycleVm db operation
  pure ({
      operation := { operation with
        status := .processing
        phase := some (
          if operation.operationType = .vmReboot then "dispatch_reboot_" ++ command
          else "dispatch_" ++ command)
        attempts := operation.attempts + 1
        updatedAt := stamp }
      vm := if command = "delete" then some { lifecycleVm.vm with status := .deleting }
        else none },
    command, lifecycleVm.target)

/-- The tail of `finish_lifecycle_dispatch` for a result with a task. -/
def finishLifecycleTask (operation : Operation) (target : ProviderPlacement)
    (task : ProviderTask) : Except Error Changes := do
  checkTaskTarget task target
  let stored := { operation with providerTaskId := some task.taskId, lastErrorCode := none }
  if operation.operationType = .vmReboot then
    if operation.phase = some "dispatch_reboot_shutdown" then
      pure { operation := { stored with phase := some "shutdown" } }
    else if operation.phase = some "dispatch_reboot_start" then
      pure { operation := { stored with phase := some "start" } }
    else throw (.runtimeError "unsupported reboot dispatch phase")
  else
    pure { operation := { stored with phase := some "await_task" } }

/-- The tail of `finish_lifecycle_dispatch` for a result without a task. -/
def finishLifecycleNone (operation : Operation) (vm : VirtualMachine) : Except Error Changes :=
  if operation.phase = some "dispatch_shutdown" ∨ operation.phase = some "dispatch_stop" then
    pure {
      operation := { operation with
        status := .succeeded, phase := some "complete", lastErrorCode := none }
      vm := some { vm with status := .stopped } }
  else if operation.phase = some "dispatch_reboot_shutdown" then
    pure {
      operation := { operation with
        status := .pending, phase := some "start", lastErrorCode := none }
      vm := some { vm with status := .stopped } }
  else if operation.phase = some "dispatch_reboot_start" then
    pure {
      operation := { operation with
        status := .succeeded, phase := some "complete", lastErrorCode := none }
      vm := some { vm with status := .running } }
  else
    throw (.runtimeError
      ("unsupported lifecycle dispatch phase: " ++ phaseText operation.phase))

def finishLifecycleDispatch (stamp : Time) (db : Database) (operation : Operation)
    (result : ProviderResult) : Except Error Changes := do
  require (operation.status = .processing ∧ operation.providerTaskId = none)
    (.runtimeError "invalid lifecycle dispatch state")
  let ⟨vm, target, _⟩ ← getLifecycleVm db operation
  if operation.operationType = .vmDelete then
    require (operation.phase = some "dispatch_delete") (.runtimeError "invalid delete result")
    match result with
    | .delete ⟨.succeeded, some _⟩ =>
        throw (.runtimeError "completed delete unexpectedly has a provider task")
    | .delete ⟨.succeeded, none⟩ => pure {
        operation := { operation with
          status := .succeeded, phase := some "complete", lastErrorCode := none }
        vm := some { vm with status := .deleted } }
    | .delete ⟨.inProgress, some _⟩ =>
        throw (.runtimeError "in-progress delete unexpectedly has a provider task")
    | .delete ⟨.inProgress, none⟩ => pure { operation := { operation with
        phase := some "reconcile_delete"
        lastErrorCode := some "provider_outcome_unknown"
        updatedAt := stamp } }
    | .delete ⟨.submitted, none⟩ =>
        throw (.runtimeError "submitted delete has no provider task")
    | .delete ⟨.submitted, some task⟩ => finishLifecycleTask operation target task
    | _ => throw (.runtimeError "invalid delete result")
  else
    match result with
    | .task (some task) => finishLifecycleTask operation target task
    | .task none => finishLifecycleNone operation vm
    | _ => throw (.runtimeError "invalid lifecycle provider task")

/-- The phases `reconcile_lifecycle_operation` accepts. -/
def lifecycleReconciliationPhases : List String :=
  ["dispatch_shutdown", "reconcile_shutdown", "dispatch_stop", "reconcile_stop",
    "dispatch_delete", "reconcile_delete",
    "dispatch_reboot_shutdown", "reconcile_reboot_shutdown",
    "dispatch_reboot_start", "reconcile_reboot_start"]

def reconcileLifecycleOperation (stamp : Time) (db : Database) (operation : Operation) :
    Txn Changes := do
  require (operation.status = .processing ∧ operation.providerTaskId = none)
    (.runtimeError "lifecycle operation does not need reconciliation")
  let unsupported :=
    .runtimeError ("unsupported lifecycle reconciliation phase: " ++ phaseText operation.phase)
  let phase ← found operation.phase unsupported
  require (phase ∈ lifecycleReconciliationPhases) unsupported
  let ⟨vm, target, _⟩ ← getLifecycleVm db operation
  let state ← Adapter.getVmPowerState vm.id target
  if phase ∈ ["dispatch_delete", "reconcile_delete"] ∧ state.status = .missing then
    pure {
      operation := { operation with
        status := .succeeded, phase := some "complete", lastErrorCode := none }
      vm := some { vm with status := .deleted } }
  else if state.status = .stopped ∧ ¬state.locked ∧
      phase ∈ ["dispatch_shutdown", "reconcile_shutdown", "dispatch_stop", "reconcile_stop"] then
    pure {
      operation := { operation with
        status := .succeeded, phase := some "complete", lastErrorCode := none }
      vm := some { vm with status := .stopped } }
  else if state.status = .stopped ∧ ¬state.locked ∧
      phase ∈ ["dispatch_reboot_shutdown", "reconcile_reboot_shutdown"] then
    pure {
      operation := { operation with
        status := .pending, phase := some "start", lastErrorCode := none }
      vm := some { vm with status := .stopped } }
  else if state.status = .running ∧ ¬state.locked ∧
      phase ∈ ["dispatch_reboot_start", "reconcile_reboot_start"] then
    pure {
      operation := { operation with
        status := .succeeded, phase := some "complete", lastErrorCode := none }
      vm := some { vm with status := .running } }
  else
    -- The target is not confirmed: without a UPID the command is not sent again.
    pure { operation := { operation with
      phase := some (replace1 phase "dispatch_" "reconcile_")
      lastErrorCode := some "provider_outcome_unknown"
      updatedAt := stamp } }

def processPowerOffVmOperation (stamp : Time) (db : Database) (operation : Operation) :
    Txn Changes := do
  require (operation.operationType = .vmShutdown ∨ operation.operationType = .vmStop)
    (.runtimeError "invalid operation type")
  require (operation.status = .pending ∨ operation.status = .processing)
    (.runtimeError "operation cannot be processed")
  let ⟨vm, target, _⟩ ← getLifecycleVm db operation
  if operation.status = .pending then
    require (operation.providerTaskId = none)
      (.runtimeError "pending operation already has a provider task")
    let task ← if operation.operationType = .vmShutdown
      then Adapter.shutdownVm vm.id target
      else Adapter.stopVm vm.id target
    match task with
    | none => pure {
        operation := { operation with
          status := .succeeded, phase := some "complete", lastErrorCode := none }
        vm := some { vm with status := .stopped } }
    | some task =>
        checkTaskTarget task target
        pure { operation := { operation with
          providerTaskId := some task.taskId, status := .processing,
          attempts := operation.attempts + 1 } }
  else
    let taskId ← found operation.providerTaskId
      (.runtimeError "processing operation has no provider task")
    let taskStatus ← Adapter.getTaskStatus ⟨taskId, target.vmid, target.node⟩
    match taskStatus.status with
    | .running => pure { operation := { operation with updatedAt := stamp } }
    | .succeeded => pure {
        operation := { operation with
          status := .succeeded, phase := some "complete", providerTaskId := none,
          lastErrorCode := none }
        vm := some { vm with status := .stopped } }
    | .failed => pure { operation := { operation with
        status := .failed, lastErrorCode := some (failureCode taskStatus) } }

def processRebootVmOperation (stamp : Time) (db : Database) (operation : Operation) :
    Txn Changes := do
  require (operation.operationType = .vmReboot) (.runtimeError "invalid operation type")
  require (operation.status = .pending ∨ operation.status = .processing)
    (.runtimeError "operation cannot be processed")
  require (operation.phase = some "shutdown" ∨ operation.phase = some "start")
    (.runtimeError ("unsupported reboot phase: " ++ phaseText operation.phase))
  let ⟨vm, target, _⟩ ← getLifecycleVm db operation
  if operation.status = .pending then
    require (operation.providerTaskId = none)
      (.runtimeError "pending operation already has a provider task")
    let task ← if operation.phase = some "shutdown"
      then Adapter.shutdownVm vm.id target
      else Adapter.startVm vm.id target
    match task with
    | none =>
        if operation.phase = some "shutdown" then pure {
          operation := { operation with phase := some "start" }
          vm := some { vm with status := .stopped } }
        else pure {
          operation := { operation with
            status := .succeeded, phase := some "complete", lastErrorCode := none }
          vm := some { vm with status := .running } }
    | some task =>
        checkTaskTarget task target
        pure { operation := { operation with
          providerTaskId := some task.taskId, status := .processing,
          attempts := operation.attempts + 1 } }
  else
    let taskId ← found operation.providerTaskId
      (.runtimeError "processing operation has no provider task")
    let taskStatus ← Adapter.getTaskStatus ⟨taskId, target.vmid, target.node⟩
    match taskStatus.status with
    | .running => pure { operation := { operation with updatedAt := stamp } }
    | .succeeded =>
        let done := { operation with providerTaskId := none, lastErrorCode := none }
        if operation.phase = some "shutdown" then pure {
          operation := { done with phase := some "start", status := .pending }
          vm := some { vm with status := .stopped } }
        else pure {
          operation := { done with status := .succeeded, phase := some "complete" }
          vm := some { vm with status := .running } }
    | .failed => pure { operation := { operation with
        status := .failed, lastErrorCode := some (failureCode taskStatus) } }

def processDeleteVmOperation (stamp : Time) (db : Database) (operation : Operation) :
    Txn Changes := do
  require (operation.operationType = .vmDelete) (.runtimeError "invalid operation type")
  require (operation.status = .pending ∨ operation.status = .processing)
    (.runtimeError "operation cannot be processed")
  let ⟨vm, target, _⟩ ← getLifecycleVm db operation
  if operation.status = .pending then
    require (operation.providerTaskId = none)
      (.runtimeError "pending operation already has a provider task")
    let result ← Adapter.deleteVm vm.id target
    match result.state, result.task with
    | .submitted, none => Program.raise (.runtimeError "submitted delete has no provider task")
    | .submitted, some task =>
        checkTaskTarget task target
        pure {
          operation := { operation with
            providerTaskId := some task.taskId, status := .processing,
            attempts := operation.attempts + 1 }
          vm := some { vm with status := .deleting } }
    | .inProgress, some _ =>
        Program.raise (.runtimeError "in-progress delete unexpectedly has a provider task")
    | .inProgress, none => pure {
        operation := { operation with updatedAt := stamp }
        vm := some { vm with status := .deleting } }
    | .succeeded, some _ =>
        Program.raise (.runtimeError "completed delete unexpectedly has a provider task")
    | .succeeded, none => pure {
        operation := { operation with
          status := .succeeded, phase := some "complete", lastErrorCode := none }
        vm := some { vm with status := .deleted } }
  else
    let taskId ← found operation.providerTaskId
      (.runtimeError "processing operation has no provider task")
    let taskStatus ← Adapter.getTaskStatus ⟨taskId, target.vmid, target.node⟩
    match taskStatus.status with
    | .running => pure { operation := { operation with updatedAt := stamp } }
    | .succeeded => pure {
        operation := { operation with
          status := .succeeded, phase := some "complete", providerTaskId := none,
          lastErrorCode := none }
        vm := some { vm with status := .deleted } }
    | .failed => pure {
        operation := { operation with
          status := .failed, lastErrorCode := some (failureCode taskStatus) }
        -- The quota stays reserved: the provider may have deleted only part.
        vm := some { vm with status := .deleting } }

end NpdPortal
