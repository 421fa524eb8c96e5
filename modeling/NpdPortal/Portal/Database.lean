import Mathlib.Data.Int.Notation
import Mathlib.Data.Nat.Notation
import NpdPortal.Library.KeyedRows
import NpdPortal.Library.Text

/-!
# The rows of the portal database

The tables the services and the operation worker read and write, with the
declared constraints: primary keys, the unique idempotency key, the unique
provider VMID, the foreign keys between these tables and the types of the
columns which hold what the provider answered.  A `Database` is a committed
state, which always satisfies them; a transaction that would violate one is
rejected as a whole.
-/

namespace NpdPortal

/-- A UUID by its integer value. -/
abbrev Uuid := BitVec 128

instance (id : Uuid) (ids : List Uuid) : Decidable (id ∈ ids) :=
  List.instDecidableMemOfLawfulBEq id ids

instance (id : Option Uuid) (ids : List (Option Uuid)) : Decidable (id ∈ ids) :=
  List.instDecidableMemOfLawfulBEq id ids

/-- A point in time in microseconds. -/
abbrev Time := ℤ

/-- `operations.operation_type`. -/
inductive OperationType where
  | vmCreate
  | vmStart
  | vmShutdown
  | vmStop
  | vmReboot
  | vmDelete
  deriving DecidableEq, Repr

/-- `operations.status`. -/
inductive OperationStatus where
  | pending
  | processing
  | succeeded
  | failed
  deriving DecidableEq, Repr

/-- `virtual_machines.status`. -/
inductive VmStatus where
  | pending
  | pendingCapacity
  | provisioning
  | running
  | stopped
  | failed
  | deleting
  | deleted
  deriving DecidableEq, Repr

/-- The stored text of an operation type. -/
def OperationType.text : OperationType → String
  | .vmCreate => "vm.create"
  | .vmStart => "vm.start"
  | .vmShutdown => "vm.shutdown"
  | .vmStop => "vm.stop"
  | .vmReboot => "vm.reboot"
  | .vmDelete => "vm.delete"

/-- The stored text of a VM status. -/
def VmStatus.text : VmStatus → String
  | .pending => "pending"
  | .pendingCapacity => "pending_capacity"
  | .provisioning => "provisioning"
  | .running => "running"
  | .stopped => "stopped"
  | .failed => "failed"
  | .deleting => "deleting"
  | .deleted => "deleted"

/-- `user_quota.status`. -/
inductive QuotaStatus where
  | active
  | suspended
  deriving DecidableEq, Repr

/-- A row of `operations`. -/
structure Operation where
  id : Uuid
  virtualMachineId : Uuid
  operationType : OperationType
  status : OperationStatus
  phase : Option String
  idempotencyKey : String
  attempts : ℕ
  lastErrorCode : Option String
  providerTaskId : Option String
  updatedAt : Time
  deriving DecidableEq, Repr

/-- A row of `virtual_machines`. -/
structure VirtualMachine where
  id : Uuid
  ownerUserId : Uuid
  status : VmStatus
  requestedVcpus : ℕ
  requestedMemoryMb : ℕ
  requestedStorageGb : ℕ
  imageId : String
  providerVmid : Option ℤ
  providerNode : Option String
  sshPublicKeyId : Option Uuid
  deriving DecidableEq, Repr

/-- The columns which the worker writes to an operation take these values. -/
structure Operation.Fits (operation : Operation) : Prop where
  /-- `phase` is a `VARCHAR(32)`. -/
  phase : ∀ phase ∈ operation.phase, Sql.FitsVarchar 32 phase
  /-- `last_error_code` is a `VARCHAR(100)`. -/
  lastErrorCode : ∀ code ∈ operation.lastErrorCode, Sql.FitsVarchar 100 code
  /-- `provider_task_id` is a `VARCHAR(255)`. -/
  providerTaskId : ∀ taskId ∈ operation.providerTaskId, Sql.FitsVarchar 255 taskId

theorem Operation.fits_iff (operation : Operation) : operation.Fits ↔
    (∀ phase ∈ operation.phase, Sql.FitsVarchar 32 phase) ∧
    (∀ code ∈ operation.lastErrorCode, Sql.FitsVarchar 100 code) ∧
    ∀ taskId ∈ operation.providerTaskId, Sql.FitsVarchar 255 taskId :=
  ⟨fun ⟨a, b, c⟩ => ⟨a, b, c⟩, fun ⟨a, b, c⟩ => ⟨a, b, c⟩⟩

instance (operation : Operation) : Decidable operation.Fits :=
  decidable_of_iff _ operation.fits_iff.symm

/-- The columns of the placement of a VM take these values. -/
structure VirtualMachine.Fits (vm : VirtualMachine) : Prop where
  /-- `provider_vmid` is an `INTEGER`. -/
  providerVmid : ∀ vmid ∈ vm.providerVmid, Sql.FitsInteger vmid
  providerNode : ∀ node ∈ vm.providerNode, Sql.FitsText node

theorem VirtualMachine.fits_iff (vm : VirtualMachine) : vm.Fits ↔
    (∀ vmid ∈ vm.providerVmid, Sql.FitsInteger vmid) ∧
    ∀ node ∈ vm.providerNode, Sql.FitsText node :=
  ⟨fun ⟨a, b⟩ => ⟨a, b⟩, fun ⟨a, b⟩ => ⟨a, b⟩⟩

instance (vm : VirtualMachine) : Decidable vm.Fits :=
  decidable_of_iff _ vm.fits_iff.symm

/-- A row of `ssh_public_keys`. -/
structure SshPublicKey where
  id : Uuid
  ownerUserId : Uuid
  publicKey : String
  deriving DecidableEq, Repr

/-- A row of `user_quota`. -/
structure UserQuota where
  userId : Uuid
  computePlanId : Uuid
  status : QuotaStatus
  deriving DecidableEq, Repr

/-- A row of `compute_plans`. -/
structure ComputePlan where
  id : Uuid
  code : String
  maxVms : ℕ
  maxTotalVcpus : ℕ
  maxTotalMemoryMb : ℕ
  maxTotalStorageGb : ℕ
  maxSharedStorageGb : ℕ
  isActive : Bool
  deriving DecidableEq, Repr

/-- The tables, in insertion order, without their constraints. -/
structure Tables where
  virtualMachines : List VirtualMachine
  operations : List Operation
  sshPublicKeys : List SshPublicKey
  userQuotas : List UserQuota
  computePlans : List ComputePlan
  deriving DecidableEq, Repr

/-- The declared constraints. -/
structure Tables.Valid (tables : Tables) : Prop where
  /-- Primary key of `virtual_machines`. -/
  vmIds : (tables.virtualMachines.map (·.id)).Nodup
  /-- Primary key of `operations`. -/
  operationIds : (tables.operations.map (·.id)).Nodup
  /-- Primary key of `ssh_public_keys`. -/
  sshKeyIds : (tables.sshPublicKeys.map (·.id)).Nodup
  /-- Primary key of `user_quota`. -/
  quotaUsers : (tables.userQuotas.map (·.userId)).Nodup
  /-- Primary key of `compute_plans`. -/
  planIds : (tables.computePlans.map (·.id)).Nodup
  /-- `uq_operations_idempotency_key`. -/
  idempotencyKeys : (tables.operations.map (·.idempotencyKey)).Nodup
  /-- `vm_provider_vmid_unique`; NULLs do not collide. -/
  providerVmids : (tables.virtualMachines.filterMap (·.providerVmid)).Nodup
  /-- Foreign key of `operations.virtual_machine_id`. -/
  operationVms : ∀ operation ∈ tables.operations,
    operation.virtualMachineId ∈ tables.virtualMachines.map (·.id)
  /-- Foreign key of `virtual_machines.ssh_public_key_id`, which may be NULL. -/
  vmSshKeys : ∀ vm ∈ tables.virtualMachines,
    vm.sshPublicKeyId ∈ none :: tables.sshPublicKeys.map fun key => some key.id
  /-- Foreign key of `user_quota.compute_plan_id`. -/
  quotaPlans : ∀ quota ∈ tables.userQuotas,
    quota.computePlanId ∈ tables.computePlans.map (·.id)
  /-- The types of the columns. -/
  vmFits : ∀ vm ∈ tables.virtualMachines, vm.Fits
  operationFits : ∀ operation ∈ tables.operations, operation.Fits

theorem Tables.valid_iff (tables : Tables) : tables.Valid ↔
    (tables.virtualMachines.map (·.id)).Nodup ∧ (tables.operations.map (·.id)).Nodup ∧
    (tables.sshPublicKeys.map (·.id)).Nodup ∧ (tables.userQuotas.map (·.userId)).Nodup ∧
    (tables.computePlans.map (·.id)).Nodup ∧
    (tables.operations.map (·.idempotencyKey)).Nodup ∧
    (tables.virtualMachines.filterMap (·.providerVmid)).Nodup ∧
    (∀ operation ∈ tables.operations,
      operation.virtualMachineId ∈ tables.virtualMachines.map (·.id)) ∧
    (∀ vm ∈ tables.virtualMachines,
      vm.sshPublicKeyId ∈ none :: tables.sshPublicKeys.map fun key => some key.id) ∧
    (∀ quota ∈ tables.userQuotas, quota.computePlanId ∈ tables.computePlans.map (·.id)) ∧
    (∀ vm ∈ tables.virtualMachines, vm.Fits) ∧
    ∀ operation ∈ tables.operations, operation.Fits := by
  constructor
  · rintro ⟨h1, h2, h3, h4, h5, h6, h7, h8, h9, h10, h11, h12⟩
    exact ⟨h1, h2, h3, h4, h5, h6, h7, h8, h9, h10, h11, h12⟩
  · rintro ⟨h1, h2, h3, h4, h5, h6, h7, h8, h9, h10, h11, h12⟩
    exact ⟨h1, h2, h3, h4, h5, h6, h7, h8, h9, h10, h11, h12⟩

instance (tables : Tables) : Decidable tables.Valid :=
  decidable_of_iff _ tables.valid_iff.symm

/-- A committed state of the database. -/
structure Database extends Tables where
  /-- Every committed state satisfies the declared constraints. -/
  valid : toTables.Valid

namespace Database

/-- The database without rows. -/
def empty : Database where
  virtualMachines := []
  operations := []
  sshPublicKeys := []
  userQuotas := []
  computePlans := []
  valid := by decide

/-- Commit `tables`, or reject the transaction with an `IntegrityError` or a `DataError`. -/
def commit (tables : Tables) : Option Database :=
  if valid : tables.Valid then some ⟨tables, valid⟩ else none

variable (db : Database)

/-- The row of `virtual_machines` with the given id. -/
def virtualMachine? (id : Uuid) : Option VirtualMachine :=
  KeyedRows.lookup VirtualMachine.id id db.virtualMachines

/-- The row of `operations` with the given id. -/
def operation? (id : Uuid) : Option Operation :=
  KeyedRows.lookup Operation.id id db.operations

/-- The row of `ssh_public_keys` with the given id. -/
def sshPublicKey? (id : Uuid) : Option SshPublicKey :=
  KeyedRows.lookup SshPublicKey.id id db.sshPublicKeys

/-- The row of `user_quota` of the given user. -/
def userQuota? (userId : Uuid) : Option UserQuota :=
  KeyedRows.lookup UserQuota.userId userId db.userQuotas

/-- The row of `compute_plans` with the given id. -/
def computePlan? (id : Uuid) : Option ComputePlan :=
  KeyedRows.lookup ComputePlan.id id db.computePlans

/-- The row of `operations` with the given idempotency key. -/
def operationByKey? (key : String) : Option Operation :=
  KeyedRows.lookup Operation.idempotencyKey key db.operations

/-- The operations of one VM, oldest first. -/
def operationsOf (vmId : Uuid) : List Operation :=
  db.operations.filter fun operation => operation.virtualMachineId = vmId

variable {db}

theorem commit_eq_some {tables : Tables} {next : Database}
    (committed : commit tables = some next) : next.toTables = tables := by
  unfold commit at committed
  split at committed
  · cases committed
    rfl
  · cases committed

theorem commit_of_valid {tables : Tables} (valid : tables.Valid) :
    commit tables = some ⟨tables, valid⟩ := by
  simp [commit, valid]

theorem commit_eq_none_iff {tables : Tables} : commit tables = none ↔ ¬tables.Valid := by
  unfold commit
  split <;> simp_all

theorem virtualMachine?_eq_some_iff {id : Uuid} {vm : VirtualMachine} :
    db.virtualMachine? id = some vm ↔ vm ∈ db.virtualMachines ∧ vm.id = id :=
  KeyedRows.lookup_eq_some_iff db.valid.vmIds

theorem operation?_eq_some_iff {id : Uuid} {operation : Operation} :
    db.operation? id = some operation ↔ operation ∈ db.operations ∧ operation.id = id :=
  KeyedRows.lookup_eq_some_iff db.valid.operationIds

theorem sshPublicKey?_eq_some_iff {id : Uuid} {key : SshPublicKey} :
    db.sshPublicKey? id = some key ↔ key ∈ db.sshPublicKeys ∧ key.id = id :=
  KeyedRows.lookup_eq_some_iff db.valid.sshKeyIds

theorem userQuota?_eq_some_iff {userId : Uuid} {quota : UserQuota} :
    db.userQuota? userId = some quota ↔ quota ∈ db.userQuotas ∧ quota.userId = userId :=
  KeyedRows.lookup_eq_some_iff db.valid.quotaUsers

theorem computePlan?_eq_some_iff {id : Uuid} {plan : ComputePlan} :
    db.computePlan? id = some plan ↔ plan ∈ db.computePlans ∧ plan.id = id :=
  KeyedRows.lookup_eq_some_iff db.valid.planIds

theorem operationByKey?_eq_some_iff {key : String} {operation : Operation} :
    db.operationByKey? key = some operation ↔
      operation ∈ db.operations ∧ operation.idempotencyKey = key :=
  KeyedRows.lookup_eq_some_iff db.valid.idempotencyKeys

theorem mem_operationsOf {vmId : Uuid} {operation : Operation} :
    operation ∈ db.operationsOf vmId ↔
      operation ∈ db.operations ∧ operation.virtualMachineId = vmId := by
  simp [operationsOf]

/-- The VM an operation belongs to. -/
theorem exists_vm_of_operation {operation : Operation} (operationMem : operation ∈ db.operations) :
    ∃ vm ∈ db.virtualMachines, vm.id = operation.virtualMachineId := by
  simpa using db.valid.operationVms operation operationMem

end Database

end NpdPortal
