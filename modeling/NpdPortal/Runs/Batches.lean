import NpdPortal.Stages.Progress

/-!
# Batches of requests

Calls of `create_vm` and `enqueue_vm_operation` which are accepted one after
another.  The operations they add wait for their first stage, each on a VM of
its own.
-/

namespace NpdPortal

/-- A call of `create_vm` or of `enqueue_vm_operation`. -/
inductive EnqueueRequest where
  | create (context : RequestContext) (userId : Uuid) (request : VirtualMachineCreate)
      (idempotencyKey : String)
  | enqueue (context : RequestContext) (userId vmId : Uuid) (operationType : OperationType)
      (idempotencyKey : String)

namespace Database

/-- The database after a request, or the error the request ends with. -/
def accept (db : Database) : EnqueueRequest → Except Error Database
  | .create context userId request idempotencyKey => do
      let (next, _) ← createVm db context userId request idempotencyKey
      pure next
  | .enqueue context userId vmId operationType idempotencyKey => do
      let (next, _) ← enqueueVmOperation db context userId vmId operationType idempotencyKey
      pure next

/-- The database after requests that are all accepted. -/
def acceptAll (db : Database) (requests : List EnqueueRequest) : Except Error Database :=
  requests.foldlM accept db

/-- The operations which a later database has in addition. -/
def added (db later : Database) : List Operation :=
  later.operations.drop db.operations.length

end Database

/-- The operations which accepted requests have added. -/
structure Batch (start db : Database) (added : List Operation) : Prop where
  operations : db.operations = start.operations ++ added
  /-- They have not been processed yet. -/
  fresh : ∀ operation ∈ added,
    (Position.pending operation.operationType.firstStage).Matches operation ∧
      operation.attempts = 0 ∧ operation.lastErrorCode = none
  ownVm : (added.map (·.virtualMachineId)).Nodup
  /-- A create comes with its VM. -/
  created : ∀ operation ∈ added, operation.operationType = .vmCreate →
    ∃ vm, db.virtualMachine? operation.virtualMachineId = some vm ∧ vm.providerNode = none ∧
      vm.providerVmid = none ∧ HasSshKey db vm

section Batch

variable {start db next : Database} {added : List Operation}

theorem Batch.nil (start : Database) : Batch start start [] where
  operations := by simp
  fresh := by simp
  ownVm := by simp
  created := by simp

/-- A VM row is found again when rows are added behind it. -/
theorem Database.virtualMachine?_of_append {rows : List VirtualMachine}
    (vms : next.virtualMachines = db.virtualMachines ++ rows) {id : Uuid} {vm : VirtualMachine}
    (stored : db.virtualMachine? id = some vm) : next.virtualMachine? id = some vm := by
  rcases Database.virtualMachine?_eq_some_iff.mp stored with ⟨vmMem, vmId⟩
  apply Database.virtualMachine?_eq_some_iff.mpr
  rw [vms]
  exact ⟨List.mem_append_left rows vmMem, vmId⟩

/-- One more operation, on a VM that none of the batch has. -/
theorem Batch.snoc (batch : Batch start db added) {rows : List VirtualMachine}
    {operation : Operation} (vms : next.virtualMachines = db.virtualMachines ++ rows)
    (operations : next.operations = db.operations ++ [operation])
    (sshPublicKeys : next.sshPublicKeys = db.sshPublicKeys)
    (fresh : (Position.pending operation.operationType.firstStage).Matches operation ∧
      operation.attempts = 0 ∧ operation.lastErrorCode = none)
    (otherVm : operation.virtualMachineId ∉ added.map (·.virtualMachineId))
    (created : operation.operationType = .vmCreate →
      ∃ vm, next.virtualMachine? operation.virtualMachineId = some vm ∧
        vm.providerNode = none ∧ vm.providerVmid = none ∧ HasSshKey next vm) :
    Batch start next (added ++ [operation]) where
  operations := by rw [operations, batch.operations, List.append_assoc]
  fresh other otherMem := by
    rcases List.mem_append.mp otherMem with among | isLast
    · exact batch.fresh other among
    · rw [List.mem_singleton.mp isLast]
      exact fresh
  ownVm := by
    rw [List.map_append]
    apply batch.ownVm.append (by simp)
    intro id idMem isLast
    simp only [List.map_cons, List.map_nil, List.mem_singleton] at isLast
    subst isLast
    exact otherVm idMem
  created other otherMem isCreate := by
    rcases List.mem_append.mp otherMem with among | isLast
    · rcases batch.created other among isCreate with ⟨vm, stored, noNode, noVmid, hasKey⟩
      have kept : ∀ key ∈ db.sshPublicKeys, key ∈ next.sshPublicKeys := by
        rw [sshPublicKeys]
        exact fun _ keyMem => keyMem
      exact ⟨vm, Database.virtualMachine?_of_append vms stored, noNode, noVmid,
        hasKey.mono kept rfl rfl⟩
    · rw [List.mem_singleton.mp isLast] at isCreate ⊢
      exact created isCreate

/-- The VMs of the batch are stored. -/
theorem Batch.vm_stored (batch : Batch start db added) {operation : Operation}
    (operationMem : operation ∈ added) :
    operation.virtualMachineId ∈ db.virtualMachines.map (·.id) := by
  apply db.valid.operationVms
  rw [batch.operations]
  exact List.mem_append_right _ operationMem

/-- A create comes on a VM which was not there before. -/
theorem Batch.create (batch : Batch start db added) {context : RequestContext} {userId : Uuid}
    {request : VirtualMachineCreate} {idempotencyKey : String}
    (created : Created db next context userId request idempotencyKey) :
    Batch start next (added ++
      [newCreateOperation context.operationId context.vmId idempotencyKey context.now]) := by
  have vms : next.virtualMachines = db.virtualMachines ++ [newVm context.vmId userId request] := by
    rw [created.tables]
  have isNew : context.vmId ∉ db.virtualMachines.map (·.id) := by
    have distinct := next.valid.vmIds
    rw [vms, List.map_append, List.nodup_append] at distinct
    intro stored
    exact distinct.2.2 context.vmId stored context.vmId (by simp [newVm]) rfl
  have stored : next.virtualMachine? context.vmId = some (newVm context.vmId userId request) := by
    apply Database.virtualMachine?_eq_some_iff.mpr
    rw [vms]
    exact ⟨by simp, rfl⟩
  have sshPublicKeys : next.sshPublicKeys = db.sshPublicKeys := by rw [created.tables]
  apply batch.snoc vms (by rw [created.tables]) sshPublicKeys
  · exact ⟨newCreateOperation_matches _ _ _, rfl, rfl⟩
  · intro otherVm
    rcases List.mem_map.mp otherVm with ⟨other, otherMem, same⟩
    have vmStored := batch.vm_stored otherMem
    rw [same] at vmStored
    exact isNew vmStored
  · intro _
    rcases created.sshKey with ⟨key, keyMem, same, owned⟩
    refine ⟨_, stored, rfl, rfl, request.sshPublicKeyId, rfl, key, ?_, owned⟩
    apply Database.sshPublicKey?_eq_some_iff.mpr
    rw [sshPublicKeys]
    exact ⟨keyMem, same⟩

/-- A lifecycle operation comes on a VM without an active one. -/
theorem Batch.enqueue (batch : Batch start db added) {context : RequestContext}
    {userId vmId : Uuid} {operationType : OperationType} {idempotencyKey : String}
    {vm : VirtualMachine}
    (enqueued : Enqueued db next context userId vmId operationType idempotencyKey vm) :
    Batch start next (added ++ [newLifecycleOperation context.operationId vmId operationType
      idempotencyKey context.now]) := by
  have kind : operationType ≠ .vmCreate := by
    rcases enqueued.allowed with ⟨statuses, allowed, _⟩
    rintro rfl
    cases allowed
  have vms : next.virtualMachines = db.virtualMachines ++ [] := by simp [enqueued.tables]
  apply batch.snoc vms (by rw [enqueued.tables]) (by rw [enqueued.tables])
  · exact ⟨newLifecycleOperation_matches _ _ _ kind, rfl, rfl⟩
  · intro otherVm
    rcases List.mem_map.mp otherVm with ⟨other, otherMem, same⟩
    have stored : other ∈ db.operationsOf vmId := by
      apply Database.mem_operationsOf.mpr
      rw [batch.operations]
      exact ⟨List.mem_append_right _ otherMem, same⟩
    exact enqueued.inactive other stored ((batch.fresh other otherMem).1.active_iff.mpr id)
  · intro isCreate
    exact absurd isCreate kind

/-- An accepted request adds one operation or none. -/
theorem Batch.accept (batch : Batch start db added) {request : EnqueueRequest}
    (accepted : db.accept request = .ok next) : ∃ more, Batch start next (added ++ more) := by
  cases request with
  | create context userId request idempotencyKey =>
      simp only [Database.accept, bind_eq_ok] at accepted
      rcases accepted with ⟨⟨stored, vm⟩, served, result⟩
      cases result
      rcases createVm_eq_ok served with ⟨created, _⟩ | ⟨rfl, _⟩
      · exact ⟨_, batch.create created⟩
      · exact ⟨[], by simpa using batch⟩
  | enqueue context userId vmId operationType idempotencyKey =>
      simp only [Database.accept, bind_eq_ok] at accepted
      rcases accepted with ⟨⟨stored, operation⟩, served, result⟩
      cases result
      rcases enqueueVmOperation_eq_ok served with ⟨vm, enqueued, _⟩ | ⟨rfl, _⟩
      · exact ⟨_, batch.enqueue enqueued⟩
      · exact ⟨[], by simpa using batch⟩

/-- Accepted requests have added a batch. -/
theorem batch_of_acceptAll {requests : List EnqueueRequest}
    (accepted : start.acceptAll requests = .ok db) : Batch start db (start.added db) := by
  have onward : ∀ {middle : Database} {added : List Operation}, Batch start middle added →
      middle.acceptAll requests = .ok db → ∃ all, Batch start db all := by
    clear accepted
    induction requests with
    | nil =>
        intro middle added batch accepted
        cases accepted
        exact ⟨added, batch⟩
    | cons request rest ih =>
        intro middle added batch accepted
        simp only [Database.acceptAll, List.foldlM_cons, bind_eq_ok] at accepted
        rcases accepted with ⟨next, first, later⟩
        rcases batch.accept first with ⟨more, after⟩
        exact ih after later
  rcases onward (Batch.nil start) accepted with ⟨all, batch⟩
  have same : start.added db = all := by
    rw [Database.added, batch.operations, List.drop_left]
  exact same ▸ batch

end Batch

end NpdPortal
