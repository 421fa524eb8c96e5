import NpdPortal.Portal.VirtualMachines

/-!
# What the request services do

One specification for each service: the rows it inserts and every check that
was made before, or the row of an earlier request it returns.
-/

namespace NpdPortal

/-- The usage leaves room for the request. -/
structure ComputeUsage.Admits (usage : ComputeUsage) (plan : ComputePlan)
    (request : VirtualMachineCreate) : Prop where
  vms : usage.usedVms + 1 ≤ plan.maxVms
  vcpus : usage.usedVcpus + request.requestedVcpus ≤ plan.maxTotalVcpus
  memoryMb : usage.usedMemoryMb + request.requestedMemoryMb ≤ plan.maxTotalMemoryMb
  storageGb : usage.usedStorageGb + request.requestedStorageGb ≤ plan.maxTotalStorageGb

theorem validateVmQuota_eq_ok {plan : ComputePlan} {usage : ComputeUsage}
    {request : VirtualMachineCreate} {result : Unit}
    (validated : validateVmQuota plan usage request = .ok result) : usage.Admits plan request := by
  simp only [validateVmQuota, bind_eq_ok, require_eq_ok] at validated
  rcases validated with ⟨_, vms, _, vcpus, _, memoryMb, storageGb⟩
  exact ⟨vms, vcpus, memoryMb, storageGb⟩

theorem validateVmQuota_of_admits {plan : ComputePlan} {usage : ComputeUsage}
    {request : VirtualMachineCreate} (admits : usage.Admits plan request) :
    validateVmQuota plan usage request = .ok () := by
  simp [validateVmQuota, admits.vms, admits.vcpus, admits.memoryMb, admits.storageGb]

/-- A create request was served with these rows. -/
structure Created (db next : Database) (context : RequestContext) (userId : Uuid)
    (request : VirtualMachineCreate) (idempotencyKey : String) : Prop where
  sshKey : ∃ key ∈ db.sshPublicKeys, key.id = request.sshPublicKeyId ∧ key.ownerUserId = userId
  /-- The plan of the user has room for the request. -/
  quota : ∃ quota plan, db.userQuota? userId = some quota ∧ quota.status = .active ∧
    db.computePlan? quota.computePlanId = some plan ∧
    (getUserComputeUsage db userId).Admits plan request
  unusedKey : db.operationByKey? idempotencyKey = none
  tables : next.toTables = { db.toTables with
    virtualMachines := db.virtualMachines ++ [newVm context.vmId userId request]
    operations := db.operations ++
      [newCreateOperation context.operationId context.vmId idempotencyKey context.now] }

/-- The row an earlier create request with this key has left. -/
structure CreatedBefore (db : Database) (idempotencyKey : String) (userId : Uuid)
    (request : VirtualMachineCreate) (vm : VirtualMachine) : Prop where
  operation : ∃ operation, db.operationByKey? idempotencyKey = some operation ∧
    operation.operationType = .vmCreate ∧
    db.virtualMachine? operation.virtualMachineId = some vm
  owner : vm.ownerUserId = userId
  matchesRequest : vm.MatchesRequest request

theorem readExistingVm_eq_ok {db : Database} {operation : Operation} {userId : Uuid}
    {request : VirtualMachineCreate} {vm : VirtualMachine}
    (read : readExistingVm db operation userId request = .ok vm) :
    operation.operationType = .vmCreate ∧
      db.virtualMachine? operation.virtualMachineId = some vm ∧ vm.ownerUserId = userId ∧
      vm.MatchesRequest request := by
  simp only [readExistingVm, bind_eq_ok, require_eq_ok, found_eq_ok] at read
  rcases read with ⟨_, kind, other, vmStored, _, owner, _, same, result⟩
  cases result
  exact ⟨kind, vmStored, owner, same⟩

theorem getExistingVmForCreateRequest_eq_some {db : Database} {idempotencyKey : String}
    {userId : Uuid} {request : VirtualMachineCreate} {vm : VirtualMachine}
    (existing : getExistingVmForCreateRequest db idempotencyKey userId request = .ok (some vm)) :
    CreatedBefore db idempotencyKey userId request vm := by
  unfold getExistingVmForCreateRequest at existing
  split at existing
  · cases existing
  · rename_i operation keyed
    simp only [bind_eq_ok] at existing
    rcases existing with ⟨other, read, result⟩
    cases result
    rcases readExistingVm_eq_ok read with ⟨kind, vmStored, owner, same⟩
    exact ⟨⟨operation, keyed, kind, vmStored⟩, owner, same⟩

theorem getExistingVmForCreateRequest_eq_none {db : Database} {idempotencyKey : String}
    {userId : Uuid} {request : VirtualMachineCreate}
    (missing : getExistingVmForCreateRequest db idempotencyKey userId request = .ok none) :
    db.operationByKey? idempotencyKey = none := by
  unfold getExistingVmForCreateRequest at missing
  split at missing
  · assumption
  · simp only [bind_eq_ok] at missing
    rcases missing with ⟨_, _, result⟩
    cases result

theorem recheckCreate_eq_ok {db : Database} {idempotencyKey : String} {userId : Uuid}
    {request : VirtualMachineCreate} {vm : VirtualMachine}
    (rechecked : recheckCreate db idempotencyKey userId request = .ok vm) :
    CreatedBefore db idempotencyKey userId request vm := by
  simp only [recheckCreate, bind_eq_ok, found_eq_ok] at rechecked
  rcases rechecked with ⟨_, existing, rfl⟩
  exact getExistingVmForCreateRequest_eq_some existing

/-- A create that succeeds has inserted its rows or returns those of its key. -/
theorem createVm_eq_ok {db next : Database} {context : RequestContext} {userId : Uuid}
    {request : VirtualMachineCreate} {idempotencyKey : String} {vm : VirtualMachine}
    (created : createVm db context userId request idempotencyKey = .ok (next, vm)) :
    (Created db next context userId request idempotencyKey ∧
      vm = newVm context.vmId userId request) ∨
    (next = db ∧ CreatedBefore db idempotencyKey userId request vm) := by
  simp only [createVm, bind_eq_ok, found_eq_ok] at created
  rcases created with ⟨_, sshKey, quota, quotaStored, existing, looked, created⟩
  cases existing with
  | some other =>
      cases created
      exact .inr ⟨rfl, getExistingVmForCreateRequest_eq_some looked⟩
  | none =>
      simp only [bind_eq_ok, found_eq_ok, checkQuotaAndImage, require_eq_ok] at created
      rcases created with ⟨_, ⟨_, active, _⟩, plan, planStored, _, validated, created⟩
      split at created
      · rename_i inserted
        cases created
        refine .inl ⟨⟨require_eq_ok.mp sshKey, ⟨quota, plan, quotaStored, active, planStored,
          validateVmQuota_eq_ok validated⟩, getExistingVmForCreateRequest_eq_none looked, ?_⟩, rfl⟩
        exact Database.commit_eq_some inserted
      · simp only [bind_eq_ok] at created
        rcases created with ⟨_, rechecked, result⟩
        cases result
        exact .inr ⟨rfl, recheckCreate_eq_ok rechecked⟩

/-- A create whose checks all pass inserts its rows. -/
theorem createVm_of_insert {db next : Database} (context : RequestContext) {userId : Uuid}
    {request : VirtualMachineCreate} {idempotencyKey : String} {quota : UserQuota}
    {plan : ComputePlan} (sshKey : checkSshKey db userId request = .ok ())
    (quotaStored : db.userQuota? userId = some quota)
    (checked : checkQuotaAndImage quota request = .ok ())
    (planStored : db.computePlan? quota.computePlanId = some plan)
    (admits : (getUserComputeUsage db userId).Admits plan request)
    (unused : db.operationByKey? idempotencyKey = none)
    (inserted : db.insert [newVm context.vmId userId request]
      [newCreateOperation context.operationId context.vmId idempotencyKey context.now] =
        some next) :
    createVm db context userId request idempotencyKey =
      .ok (next, newVm context.vmId userId request) := by
  have looked : getExistingVmForCreateRequest db idempotencyKey userId request = .ok none := by
    simp [getExistingVmForCreateRequest, unused]
  have vmId : (newVm context.vmId userId request).id = context.vmId := rfl
  simp [createVm, sshKey, quotaStored, looked, checked, planStored,
    validateVmQuota_of_admits admits, vmId, inserted]

/-- A lifecycle request was served with this row. -/
structure Enqueued (db next : Database) (context : RequestContext) (userId vmId : Uuid)
    (operationType : OperationType) (idempotencyKey : String) (vm : VirtualMachine) : Prop where
  vmStored : db.virtualMachine? vmId = some vm
  owner : vm.ownerUserId = userId
  inactive : ∀ operation ∈ db.operationsOf vmId, ¬operation.Active
  allowed : ∃ statuses, allowedStatuses operationType = some statuses ∧ vm.status ∈ statuses
  unusedKey : db.operationByKey? idempotencyKey = none
  tables : next.toTables = { db.toTables with
    operations := db.operations ++ [newLifecycleOperation context.operationId vmId operationType
      idempotencyKey context.now] }

/-- The row an earlier lifecycle request with this key has left. -/
structure EnqueuedBefore (db : Database) (idempotencyKey : String) (vmId : Uuid)
    (operationType : OperationType) (operation : Operation) : Prop where
  keyed : db.operationByKey? idempotencyKey = some operation
  vm : operation.virtualMachineId = vmId
  kind : operation.operationType = operationType

theorem checkExistingOperation_eq_ok {existing operation : Operation} {vmId : Uuid}
    {operationType : OperationType}
    (checked : checkExistingOperation existing vmId operationType = .ok operation) :
    operation = existing ∧ existing.virtualMachineId = vmId ∧
      existing.operationType = operationType := by
  simp only [checkExistingOperation, bind_eq_ok, require_eq_ok] at checked
  rcases checked with ⟨_, same, result⟩
  cases result
  exact ⟨rfl, same⟩

theorem recheckEnqueue_eq_ok {db : Database} {idempotencyKey : String} {vmId : Uuid}
    {operationType : OperationType} {operation : Operation}
    (rechecked : recheckEnqueue db idempotencyKey vmId operationType = .ok operation) :
    EnqueuedBefore db idempotencyKey vmId operationType operation := by
  unfold recheckEnqueue at rechecked
  split at rechecked
  · rcases checkExistingOperation_eq_ok rechecked with ⟨rfl, vm, kind⟩
    exact ⟨‹_›, vm, kind⟩
  · cases rechecked

theorem getExistingOperation_eq_some {db : Database} {idempotencyKey : String} {vmId : Uuid}
    {operationType : OperationType} {operation : Operation}
    (existing : getExistingOperation db idempotencyKey vmId operationType =
      .ok (some operation)) :
    EnqueuedBefore db idempotencyKey vmId operationType operation := by
  unfold getExistingOperation at existing
  split at existing
  · cases existing
  · simp only [bind_eq_ok] at existing
    rcases existing with ⟨other, checked, result⟩
    cases result
    rcases checkExistingOperation_eq_ok checked with ⟨rfl, vm, kind⟩
    exact ⟨‹_›, vm, kind⟩

theorem getExistingOperation_eq_none {db : Database} {idempotencyKey : String} {vmId : Uuid}
    {operationType : OperationType}
    (missing : getExistingOperation db idempotencyKey vmId operationType = .ok none) :
    db.operationByKey? idempotencyKey = none := by
  unfold getExistingOperation at missing
  split at missing
  · assumption
  · simp only [bind_eq_ok] at missing
    rcases missing with ⟨_, _, result⟩
    cases result

theorem ownVm?_eq_some {db : Database} {userId vmId : Uuid} {vm : VirtualMachine} :
    ownVm? db userId vmId = some vm ↔
      db.virtualMachine? vmId = some vm ∧ vm.ownerUserId = userId := by
  simp [ownVm?, Option.filter_eq_some_iff]

/-- A lifecycle request whose checks all pass inserts its row. -/
theorem enqueueVmOperation_of_insert {db next : Database} (context : RequestContext)
    {userId vmId : Uuid} {operationType : OperationType} {idempotencyKey : String}
    {statuses : List VmStatus} {vm : VirtualMachine}
    (allowed : allowedStatuses operationType = some statuses)
    (own : ownVm? db userId vmId = some vm)
    (unused : db.operationByKey? idempotencyKey = none)
    (inactive : ∀ operation ∈ db.operationsOf vmId, ¬operation.Active)
    (status : vm.status ∈ statuses)
    (inserted : db.insert [] [newLifecycleOperation context.operationId vmId operationType
      idempotencyKey context.now] = some next) :
    enqueueVmOperation db context userId vmId operationType idempotencyKey =
      .ok (next, newLifecycleOperation context.operationId vmId operationType idempotencyKey
        context.now) := by
  have looked : getExistingOperation db idempotencyKey vmId operationType = .ok none := by
    simp [getExistingOperation, unused]
  have noActive : checkNoActiveOperation db vmId = .ok () := require_of inactive
  have statusChecked : checkVmStatus vm operationType statuses = .ok () := require_of status
  simp [enqueueVmOperation, allowed, own, looked, noActive, statusChecked, inserted]

/-- A lifecycle request that succeeds has inserted its row or returns that of its key. -/
theorem enqueueVmOperation_eq_ok {db next : Database} {context : RequestContext}
    {userId vmId : Uuid} {operationType : OperationType} {idempotencyKey : String}
    {operation : Operation}
    (enqueued : enqueueVmOperation db context userId vmId operationType idempotencyKey =
      .ok (next, operation)) :
    (∃ vm, Enqueued db next context userId vmId operationType idempotencyKey vm ∧
      operation = newLifecycleOperation context.operationId vmId operationType idempotencyKey
        context.now) ∨
    (next = db ∧ EnqueuedBefore db idempotencyKey vmId operationType operation) := by
  simp only [enqueueVmOperation, bind_eq_ok, found_eq_ok] at enqueued
  rcases enqueued with ⟨statuses, allowed, vm, own, existing, looked, enqueued⟩
  cases existing with
  | some other =>
      cases enqueued
      exact .inr ⟨rfl, getExistingOperation_eq_some looked⟩
  | none =>
      simp only [bind_eq_ok, checkNoActiveOperation, checkVmStatus, require_eq_ok] at enqueued
      rcases enqueued with ⟨_, inactive, _, status, enqueued⟩
      rcases ownVm?_eq_some.mp own with ⟨vmStored, owner⟩
      split at enqueued
      · rename_i inserted
        cases enqueued
        refine .inl ⟨vm, ⟨vmStored, owner, inactive, ⟨statuses, allowed, status⟩,
          getExistingOperation_eq_none looked, ?_⟩, rfl⟩
        simpa using Database.commit_eq_some inserted
      · simp only [bind_eq_ok] at enqueued
        rcases enqueued with ⟨_, rechecked, result⟩
        cases result
        exact .inr ⟨rfl, recheckEnqueue_eq_ok rechecked⟩

end NpdPortal
