import NpdPortal.Portal.Compute
import NpdPortal.Portal.Contracts

/-!
# Request services

`create_vm` and `enqueue_vm_operation` of `virtual_machines/services.py`.  The
statements between which other transactions may run are separate functions;
`createVm` and `enqueueVmOperation` put them together for one transaction that
runs alone.
-/

namespace NpdPortal

/-- `VirtualMachineCreate`, with what its field checks guarantee. -/
structure VirtualMachineCreate where
  requestedVcpus : ℕ
  requestedMemoryMb : ℕ
  requestedStorageGb : ℕ
  imageId : String
  sshPublicKeyId : Uuid
  vcpusPositive : 0 < requestedVcpus
  memoryPositive : 0 < requestedMemoryMb
  storagePositive : 0 < requestedStorageGb
  deriving DecidableEq

/-- `IMAGE_MIN_STORAGE_GB`. -/
def imageMinStorageGb (imageId : String) : Option ℕ :=
  if imageId = "almalinux-9" then some 10 else none

/-! ## create_vm -/

/-- The first statement of `create_vm`. -/
def checkSshKey (db : Database) (userId : Uuid) (request : VirtualMachineCreate) :
    Except Error Unit :=
  require (∃ key ∈ db.sshPublicKeys, key.id = request.sshPublicKeyId ∧ key.ownerUserId = userId)
    (.valueError "SSH public key not found or does not belong to user")

/-- The VM was requested with exactly these parameters. -/
def VirtualMachine.MatchesRequest (vm : VirtualMachine) (request : VirtualMachineCreate) : Prop :=
  vm.requestedVcpus = request.requestedVcpus ∧
  vm.requestedMemoryMb = request.requestedMemoryMb ∧
  vm.requestedStorageGb = request.requestedStorageGb ∧
  vm.imageId = request.imageId ∧
  vm.sshPublicKeyId = some request.sshPublicKeyId

instance (vm : VirtualMachine) (request : VirtualMachineCreate) :
    Decidable (vm.MatchesRequest request) :=
  inferInstanceAs (Decidable (_ ∧ _))

/-- `_get_existing_vm_for_create_request` once the operation with the key is read. -/
def readExistingVm (db : Database) (operation : Operation) (userId : Uuid)
    (request : VirtualMachineCreate) : Except Error VirtualMachine := do
  require (operation.operationType = .vmCreate) (.valueError "idempotency key already used")
  let vm ← found (db.virtualMachine? operation.virtualMachineId)
    (.runtimeError "operation references missing VM")
  require (vm.ownerUserId = userId) (.valueError "idempotency key already used")
  require (vm.MatchesRequest request)
    (.valueError "idempotency key reused with different request")
  pure vm

/-- `_get_existing_vm_for_create_request`. -/
def getExistingVmForCreateRequest (db : Database) (idempotencyKey : String) (userId : Uuid)
    (request : VirtualMachineCreate) : Except Error (Option VirtualMachine) :=
  match db.operationByKey? idempotencyKey with
  | none => pure none
  | some operation => do
      let vm ← readExistingVm db operation userId request
      pure (some vm)

/-- The checks of a new request against the locked quota row. -/
def checkQuotaAndImage (quota : UserQuota) (request : VirtualMachineCreate) :
    Except Error Unit := do
  require (quota.status = .active) (.permissionError "user quota is suspended")
  let minimumStorageGb ← found (imageMinStorageGb request.imageId)
    (.valueError "image is not allowed")
  require (minimumStorageGb ≤ request.requestedStorageGb)
    (.valueError s!"storage must be at least {minimumStorageGb} GB for this image")

/-- `_validate_vm_quota`. -/
def validateVmQuota (plan : ComputePlan) (usage : ComputeUsage)
    (request : VirtualMachineCreate) : Except Error Unit := do
  require (usage.usedVms + 1 ≤ plan.maxVms) (.valueError "VM limit exceeded")
  require (usage.usedVcpus + request.requestedVcpus ≤ plan.maxTotalVcpus)
    (.valueError "vCPU limit exceeded")
  require (usage.usedMemoryMb + request.requestedMemoryMb ≤ plan.maxTotalMemoryMb)
    (.valueError "memory limit exceeded")
  require (usage.usedStorageGb + request.requestedStorageGb ≤ plan.maxTotalStorageGb)
    (.valueError "storage limit exceeded")

/-- The VM row `create_vm` inserts. -/
def newVm (id userId : Uuid) (request : VirtualMachineCreate) : VirtualMachine where
  id := id
  ownerUserId := userId
  status := .pending
  requestedVcpus := request.requestedVcpus
  requestedMemoryMb := request.requestedMemoryMb
  requestedStorageGb := request.requestedStorageGb
  imageId := request.imageId
  providerVmid := none
  providerNode := none
  sshPublicKeyId := some request.sshPublicKeyId

/-- The operation row `create_vm` inserts. -/
def newCreateOperation (id vmId : Uuid) (idempotencyKey : String) (now : Time) : Operation where
  id := id
  virtualMachineId := vmId
  operationType := .vmCreate
  status := .pending
  phase := some "clone"
  idempotencyKey := idempotencyKey
  attempts := 0
  lastErrorCode := none
  providerTaskId := none
  updatedAt := now

theorem newVm_fits (id userId : Uuid) (request : VirtualMachineCreate) :
    (newVm id userId request).Fits where
  providerVmid := fun _ written => by cases written
  providerNode := fun _ written => by cases written

theorem newCreateOperation_fits (id vmId : Uuid) (idempotencyKey : String) (now : Time) :
    (newCreateOperation id vmId idempotencyKey now).Fits where
  phase := by
    rintro phase ⟨⟩
    decide
  lastErrorCode := fun _ written => by cases written
  providerTaskId := fun _ written => by cases written

/-- Insert rows and commit. -/
def Database.insert (db : Database) (vms : List VirtualMachine) (operations : List Operation) :
    Option Database :=
  Database.commit { db.toTables with
    virtualMachines := db.virtualMachines ++ vms
    operations := db.operations ++ operations }

/-- The recheck after the rollback of a lost insert. -/
def recheckCreate (db : Database) (idempotencyKey : String) (userId : Uuid)
    (request : VirtualMachineCreate) : Except Error VirtualMachine := do
  let existing ← getExistingVmForCreateRequest db idempotencyKey userId request
  found existing (.valueError "idempotency key already used")

/-- The fresh values a request is given: the ids of new rows and `now()`. -/
structure RequestContext where
  vmId : Uuid
  operationId : Uuid
  now : Time
  deriving DecidableEq, Repr

/-- `create_vm` as one undisturbed transaction, with the VM it returns. -/
def createVm (db : Database) (context : RequestContext) (userId : Uuid)
    (request : VirtualMachineCreate) (idempotencyKey : String) :
    Except Error (Database × VirtualMachine) := do
  checkSshKey db userId request
  let quota ← found (db.userQuota? userId) (.runtimeError "user quota is missing")
  let existing ← getExistingVmForCreateRequest db idempotencyKey userId request
  match existing with
  | some vm => pure (db, vm)
  | none =>
      checkQuotaAndImage quota request
      let plan ← found (db.computePlan? quota.computePlanId)
        (.runtimeError "compute plan is missing")
      validateVmQuota plan (getUserComputeUsage db userId) request
      let vm := newVm context.vmId userId request
      let operation := newCreateOperation context.operationId vm.id idempotencyKey context.now
      match db.insert [vm] [operation] with
      | some next => pure (next, vm)
      | none => do
          let vm ← recheckCreate db idempotencyKey userId request
          pure (db, vm)

/-! ## enqueue_vm_operation -/

/-- The `allowed_statuses` table. -/
def allowedStatuses : OperationType → Option (List VmStatus)
  | .vmCreate => none
  | .vmStart => some [.stopped]
  | .vmShutdown => some [.running]
  | .vmStop => some [.running]
  | .vmReboot => some [.running]
  | .vmDelete => some [.stopped]

/-- The VM of the requester, which the first statement locks. -/
def ownVm? (db : Database) (userId vmId : Uuid) : Option VirtualMachine :=
  (db.virtualMachine? vmId).filter fun vm => vm.ownerUserId = userId

/-- The comparison of the operation which has the key already. -/
def checkExistingOperation (existing : Operation) (vmId : Uuid) (operationType : OperationType) :
    Except Error Operation := do
  require (existing.virtualMachineId = vmId ∧ existing.operationType = operationType)
    (.valueError "idempotency key already used")
  pure existing

/-- The check for an operation with the same key. -/
def getExistingOperation (db : Database) (idempotencyKey : String) (vmId : Uuid)
    (operationType : OperationType) : Except Error (Option Operation) :=
  match db.operationByKey? idempotencyKey with
  | none => pure none
  | some existing => do
      let operation ← checkExistingOperation existing vmId operationType
      pure (some operation)

/-- The operation is pending or processing. -/
def Operation.Active (operation : Operation) : Prop :=
  operation.status = .pending ∨ operation.status = .processing

instance (operation : Operation) : Decidable operation.Active :=
  inferInstanceAs (Decidable (_ ∨ _))

/-- The check that no operation of the VM is active. -/
def checkNoActiveOperation (db : Database) (vmId : Uuid) : Except Error Unit :=
  require (∀ operation ∈ db.operationsOf vmId, ¬operation.Active)
    (.valueError "virtual machine already has an active operation")

/-- The check of the status of the locked VM. -/
def checkVmStatus (vm : VirtualMachine) (operationType : OperationType)
    (statuses : List VmStatus) : Except Error Unit :=
  let performed := operationType.text
  let status := vm.status.text
  require (vm.status ∈ statuses) (.valueError s!"cannot perform {performed} while VM is {status}")

/-- The operation row `enqueue_vm_operation` inserts. -/
def newLifecycleOperation (id vmId : Uuid) (operationType : OperationType)
    (idempotencyKey : String) (now : Time) : Operation where
  id := id
  virtualMachineId := vmId
  operationType := operationType
  status := .pending
  phase := if operationType = .vmReboot then some "shutdown" else none
  idempotencyKey := idempotencyKey
  attempts := 0
  lastErrorCode := none
  providerTaskId := none
  updatedAt := now

theorem newLifecycleOperation_fits (id vmId : Uuid) (operationType : OperationType)
    (idempotencyKey : String) (now : Time) :
    (newLifecycleOperation id vmId operationType idempotencyKey now).Fits where
  phase := by
    intro phase written
    simp only [newLifecycleOperation, Option.mem_def, Option.ite_none_right_eq_some,
      Option.some.injEq] at written
    rw [← written.2]
    decide
  lastErrorCode := fun _ written => by cases written
  providerTaskId := fun _ written => by cases written

/-- The recheck after the rollback of a lost insert. -/
def recheckEnqueue (db : Database) (idempotencyKey : String) (vmId : Uuid)
    (operationType : OperationType) : Except Error Operation :=
  match db.operationByKey? idempotencyKey with
  | some existing => checkExistingOperation existing vmId operationType
  | none => throw (.valueError "idempotency key already used")

/-- `enqueue_vm_operation` as one undisturbed transaction. -/
def enqueueVmOperation (db : Database) (context : RequestContext) (userId vmId : Uuid)
    (operationType : OperationType) (idempotencyKey : String) :
    Except Error (Database × Operation) := do
  let statuses ← found (allowedStatuses operationType) (.valueError "unsupported VM operation")
  let vm ← found (ownVm? db userId vmId) (.lookupError "virtual machine not found")
  let existing ← getExistingOperation db idempotencyKey vmId operationType
  match existing with
  | some operation => pure (db, operation)
  | none =>
      checkNoActiveOperation db vmId
      checkVmStatus vm operationType statuses
      let operation := newLifecycleOperation context.operationId vmId operationType
        idempotencyKey context.now
      match db.insert [] [operation] with
      | some next => pure (next, operation)
      | none => do
          let operation ← recheckEnqueue db idempotencyKey vmId operationType
          pure (db, operation)

end NpdPortal
