import NpdPortal.Portal.Requests
import NpdPortal.Stages.Advancing

/-!
# Operations and their VM

The position of the latest operation of a VM determines the status of the VM.
`Coupled` states this together with the shape of the list of its operations;
it is kept by every move of the stage machine and by every new operation.
-/

namespace NpdPortal

/-- The VM status while a stage is not yet confirmed. -/
def Stage.waitStatus : Stage → VmStatus
  | .clone | .configure | .resize | .initialStart => .provisioning
  | .shutdown | .stop | .rebootShutdown => .running
  | .start | .rebootStart => .stopped
  | .delete => .deleting

/-- The VM status after an operation has succeeded. -/
def OperationType.doneStatus : OperationType → VmStatus
  | .vmCreate | .vmStart | .vmReboot => .running
  | .vmShutdown | .vmStop => .stopped
  | .vmDelete => .deleted

/-- The VM status after a stage has failed. -/
def Stage.failedStatus (stage : Stage) : VmStatus :=
  if stage.operationType = .vmCreate then .failed else stage.waitStatus

/-- The VM statuses a position of the latest operation goes with. -/
def Position.vmStatuses : Position → List VmStatus
  | .pending .clone | .dispatching .clone => [.pending]
  | .reconciling .clone => [.pending, .provisioning]
  | .pending .delete => [.stopped]
  | .pending stage | .dispatching stage | .reconciling stage | .polling stage _
  | .review stage => [stage.waitStatus]
  | .succeeded operationType => [operationType.doneStatus]
  | .failed stage => [stage.failedStatus]

/-- Every move takes the VM to a status of the position it reaches. -/
theorem Advance.vmStatus {evidence : Evidence} {position reached : Position}
    {change : VmChange} {status : VmStatus} (advance : Advance evidence position reached change)
    (before : status ∈ position.vmStatuses) : change.newStatus status ∈ reached.vmStatuses := by
  cases advance with
  | place target => exact before
  | mark stage => cases stage <;> simp_all [Position.vmStatuses, Stage.markChange,
      Stage.waitStatus, VmChange.newStatus]
  | pollRunning stage backoff answer running => cases stage <;> exact before
  | pollSucceeded stage backoff answer succeeded => cases stage <;>
      simp_all [Position.vmStatuses, Stage.pollChange, Stage.doneChange, Stage.doneStatus,
        Stage.after, Stage.next, Stage.waitStatus, OperationType.doneStatus, Stage.operationType,
        VmChange.newStatus]
  | pollFailed stage backoff answer failed => cases stage <;>
      simp_all [Position.vmStatuses, Stage.failChange, Stage.failedStatus, Stage.waitStatus,
        Stage.operationType, VmChange.newStatus]
  | pollRaised stage backoff error => cases stage <;> exact before
  | confirmed stage position state awaits confirms =>
      rcases awaits with rfl | rfl <;> cases stage <;>
        simp_all [Position.vmStatuses, Stage.doneChange, Stage.doneStatus, Stage.after,
          Stage.next, Stage.waitStatus, OperationType.doneStatus, Stage.operationType,
          VmChange.newStatus]
  | unconfirmed stage position state awaits notConfirms readable =>
      rcases awaits with rfl | rfl <;> cases stage <;>
        simp_all [Position.vmStatuses, Stage.waitStatus, VmChange.newStatus]
  | readRaised stage position error awaits readable =>
      rcases awaits with rfl | rfl <;> cases stage <;>
        simp_all [Position.vmStatuses, Stage.waitStatus, VmChange.newStatus]
  | review stage position awaits needsReview =>
      rcases awaits with rfl | rfl <;> cases stage <;>
        simp_all [Position.vmStatuses, Stage.waitStatus, VmChange.newStatus, Stage.NeedsReview]
  | storeTask stage position result task carries waiting =>
      rcases waiting with rfl | ⟨rfl, late⟩ <;> cases stage <;>
        simp_all [Position.vmStatuses, Stage.taskChange, Stage.waitStatus, VmChange.newStatus]
  | storeDone stage result done => cases stage <;>
      simp_all [Position.vmStatuses, Stage.doneChange, Stage.doneStatus, Stage.after, Stage.next,
        Stage.waitStatus, OperationType.doneStatus, Stage.operationType, VmChange.newStatus]
  | storeInProgress stage result inProgress => cases stage <;>
      simp_all [Position.vmStatuses, Stage.taskChange, Stage.waitStatus, VmChange.newStatus]
  | storeUnknown stage error => cases stage <;>
      simp_all [Position.vmStatuses, Stage.waitStatus, VmChange.newStatus]

/-- No move starts from an operation that has ended. -/
theorem Advance.not_terminal {evidence : Evidence} {position reached : Position}
    {change : VmChange} (advance : Advance evidence position reached change) :
    ¬position.Terminal := by
  cases advance with
  | confirmed stage position state awaits _ => rcases awaits with rfl | rfl <;> exact id
  | unconfirmed stage position state awaits _ _ => rcases awaits with rfl | rfl <;> exact id
  | readRaised stage position error awaits _ => rcases awaits with rfl | rfl <;> exact id
  | review stage position awaits _ => rcases awaits with rfl | rfl <;> exact id
  | storeTask stage position result task _ waiting =>
      rcases waiting with rfl | ⟨rfl, _⟩ <;> exact id
  | _ => exact id

theorem Position.Matches.active_iff {position : Position} {operation : Operation}
    (atPosition : position.Matches operation) : operation.Active ↔ ¬position.Terminal := by
  rw [Operation.Active, atPosition.status]
  cases position <;> simp [Position.status, Position.Terminal]

/-- The operations `earlier` and then `latest` of a VM and the row of the VM. -/
structure Coupled (vm : VirtualMachine) (position : Position) (earlier : List Operation)
    (latest : Operation) : Prop where
  atPosition : position.Matches latest
  status : vm.status ∈ position.vmStatuses
  placement : vm.PlacedFor position
  ended : ∀ operation ∈ earlier, ∃ ending : Position, ending.Matches operation ∧ ending.Terminal
  /-- The first operation is the only create, and what follows it needs its success. -/
  create : (earlier = [] ∧ latest.operationType = .vmCreate) ∨
    ∃ create later, earlier = create :: later ∧ create.operationType = .vmCreate ∧
      create.status = .succeeded ∧ (∀ operation ∈ later, operation.operationType ≠ .vmCreate) ∧
      latest.operationType ≠ .vmCreate

/-- A create that has ended without failing its VM has succeeded. -/
theorem Coupled.succeeded_of_terminal {vm : VirtualMachine} {position : Position}
    {earlier : List Operation} {latest : Operation}
    (coupled : Coupled vm position earlier latest) (terminal : position.Terminal)
    (created : latest.operationType = .vmCreate) (notFailed : vm.status ≠ .failed) :
    latest.status = .succeeded := by
  cases position with
  | succeeded operationType => exact coupled.atPosition.status
  | failed stage =>
      have kind : stage.operationType = .vmCreate :=
        coupled.atPosition.operationType.symm.trans created
      have status := coupled.status
      simp only [Position.vmStatuses, Stage.failedStatus, kind, if_true,
        List.mem_singleton] at status
      exact absurd status notFailed
  | _ => exact False.elim terminal

/-- The rows of a VM and its operations fit together. -/
def Database.VmCoupled (db : Database) (vm : VirtualMachine) : Prop :=
  ∃ position earlier latest, db.operationsOf vm.id = earlier ++ [latest] ∧
    Coupled vm position earlier latest

/-- A transaction of the worker moved one operation and its VM along the machine. -/
structure Moved (db next : Database) (evidence : Evidence) (operation updated : Operation)
    (vm : VirtualMachine) (position reached : Position) (change : VmChange) : Prop where
  stored : operation ∈ db.operations
  ready : Ready db operation vm position
  atPosition : position.Matches operation
  status : vm.status ∈ position.vmStatuses
  advance : Advance evidence position reached change
  atReached : reached.Matches updated
  identity : operation.SameIdentity updated
  task : evidence.KeepsTask operation updated reached
  placement : (change.apply vm).PlacedFor reached
  tables : next.toTables = { db.toTables with
    operations := KeyedRows.replace Operation.id updated db.operations
    virtualMachines := KeyedRows.replace VirtualMachine.id (change.apply vm)
      db.virtualMachines }

namespace Moved

variable {db next : Database} {evidence : Evidence} {operation updated : Operation}
  {vm : VirtualMachine} {position reached : Position} {change : VmChange}

theorem vmMem (moved : Moved db next evidence operation updated vm position reached change) :
    vm ∈ db.virtualMachines :=
  (Database.virtualMachine?_eq_some_iff.mp moved.ready.vmStored).1

theorem vmId (moved : Moved db next evidence operation updated vm position reached change) :
    vm.id = operation.virtualMachineId :=
  (Database.virtualMachine?_eq_some_iff.mp moved.ready.vmStored).2

theorem operations (moved : Moved db next evidence operation updated vm position reached change) :
    next.operations = KeyedRows.replace Operation.id updated db.operations := by
  rw [moved.tables]

theorem virtualMachines
    (moved : Moved db next evidence operation updated vm position reached change) :
    next.virtualMachines =
      KeyedRows.replace VirtualMachine.id (change.apply vm) db.virtualMachines := by
  rw [moved.tables]

theorem sshPublicKeys
    (moved : Moved db next evidence operation updated vm position reached change) :
    next.sshPublicKeys = db.sshPublicKeys := by
  rw [moved.tables]

/-- The operations of every VM, the moved one replaced. -/
theorem operationsOf (moved : Moved db next evidence operation updated vm position reached change)
    (id : Uuid) :
    next.operationsOf id = KeyedRows.replace Operation.id updated (db.operationsOf id) := by
  unfold Database.operationsOf
  rw [moved.operations]
  refine KeyedRows.filter_replace fun old oldMem same => ?_
  have isOperation : old = operation :=
    KeyedRows.eq_of_key_eq db.valid.operationIds oldMem moved.stored
      (same.trans moved.identity.id)
  rw [isOperation, moved.identity.virtualMachineId]

/-- The operations of the other VMs are as before. -/
theorem operationsOf_of_ne
    (moved : Moved db next evidence operation updated vm position reached change) {id : Uuid}
    (other : id ≠ vm.id) : next.operationsOf id = db.operationsOf id := by
  rw [moved.operationsOf]
  refine KeyedRows.replace_of_notMem fun old oldMem same => other ?_
  rcases Database.mem_operationsOf.mp oldMem with ⟨oldStored, oldVm⟩
  have isOperation : old = operation :=
    KeyedRows.eq_of_key_eq db.valid.operationIds oldStored moved.stored
      (same.trans moved.identity.id)
  rw [← oldVm, isOperation, moved.vmId]

/-- The moved operation is the latest of its VM. -/
theorem latest_eq (moved : Moved db next evidence operation updated vm position reached change)
    {latestPosition : Position} {earlier : List Operation} {latest : Operation}
    (shape : db.operationsOf vm.id = earlier ++ [latest])
    (coupled : Coupled vm latestPosition earlier latest) : operation = latest := by
  have operationMem : operation ∈ earlier ++ [latest] := by
    rw [← shape]
    exact Database.mem_operationsOf.mpr ⟨moved.stored, moved.vmId.symm⟩
  rcases List.mem_append.mp operationMem with isEarlier | isLatest
  · rcases coupled.ended operation isEarlier with ⟨ending, atEnding, terminal⟩
    have active := moved.atPosition.active_iff.mpr moved.advance.not_terminal
    exact absurd terminal (atEnding.active_iff.mp active)
  · simpa using isLatest

theorem sameType (moved : Moved db next evidence operation updated vm position reached change) :
    updated.operationType = operation.operationType :=
  moved.identity.operationType

/-- The moved VM and its operations still fit together. -/
theorem coupled (moved : Moved db next evidence operation updated vm position reached change)
    (before : db.VmCoupled vm) : next.VmCoupled (change.apply vm) := by
  rcases before with ⟨latestPosition, earlier, latest, shape, coupled⟩
  rcases moved.latest_eq shape coupled with rfl
  have distinct : ((earlier ++ [operation]).map Operation.id).Nodup := by
    rw [← shape]
    exact db.valid.operationIds.sublist (List.filter_sublist.map _)
  have untouched : KeyedRows.replace Operation.id updated earlier = earlier := by
    refine KeyedRows.replace_of_notMem fun old oldMem same => ?_
    rw [List.map_append, List.nodup_append] at distinct
    exact distinct.2.2 old.id (List.mem_map_of_mem oldMem) operation.id (by simp)
      (same.trans moved.identity.id)
  refine ⟨reached, earlier, updated, ?_, moved.atReached, ?_, moved.placement, coupled.ended, ?_⟩
  · rw [VmChange.apply_id, moved.operationsOf, shape, KeyedRows.replace_append, untouched]
    simp [KeyedRows.replace, moved.identity.id]
  · rw [VmChange.apply_status]
    exact moved.advance.vmStatus moved.status
  · rw [moved.sameType]
    exact coupled.create

/-- Every VM is still coupled after a move. -/
theorem vmCoupled (moved : Moved db next evidence operation updated vm position reached change)
    (before : ∀ other ∈ db.virtualMachines, db.VmCoupled other) :
    ∀ other ∈ next.virtualMachines, next.VmCoupled other := by
  intro other otherMem
  rw [moved.virtualMachines, KeyedRows.mem_replace] at otherMem
  rcases otherMem with ⟨rfl, _⟩ | ⟨otherMem, differs⟩
  · exact moved.coupled (before vm moved.vmMem)
  · rcases before other otherMem with ⟨latestPosition, earlier, latest, shape, coupled⟩
    refine ⟨latestPosition, earlier, latest, ?_, coupled⟩
    rw [moved.operationsOf_of_ne (by simpa using differs), shape]

end Moved

section Requests

variable {db next : Database} {context : RequestContext} {userId vmId : Uuid}
  {request : VirtualMachineCreate} {operationType : OperationType} {idempotencyKey : String}

theorem newCreateOperation_matches (id vmId : Uuid) (now : Time) :
    (Position.pending .clone).Matches (newCreateOperation id vmId idempotencyKey now) :=
  ⟨rfl, rfl, by simp [newCreateOperation, Position.phases, Stage.pendingPhase], rfl⟩

/-- A new VM starts with its create at the first stage. -/
theorem Created.vmCoupled (created : Created db next context userId request idempotencyKey)
    (before : ∀ vm ∈ db.virtualMachines, db.VmCoupled vm) :
    ∀ vm ∈ next.virtualMachines, next.VmCoupled vm := by
  have vms : next.virtualMachines = db.virtualMachines ++ [newVm context.vmId userId request] := by
    rw [created.tables]
  have operations : ∀ id, next.operationsOf id = db.operationsOf id ++
      if context.vmId = id then [newCreateOperation context.operationId context.vmId
        idempotencyKey context.now] else [] := by
    intro id
    unfold Database.operationsOf
    rw [created.tables, List.filter_append]
    by_cases same : context.vmId = id <;> simp [newCreateOperation, same]
  have fresh : ∀ vm ∈ db.virtualMachines, context.vmId ≠ vm.id := by
    have distinct := next.valid.vmIds
    rw [vms, List.map_append, List.nodup_append] at distinct
    intro vm vmMem same
    exact distinct.2.2 vm.id (List.mem_map_of_mem vmMem) context.vmId (by simp [newVm]) same.symm
  intro vm vmMem
  rw [vms, List.mem_append, List.mem_singleton] at vmMem
  rcases vmMem with vmMem | rfl
  · rcases before vm vmMem with ⟨position, earlier, latest, shape, coupled⟩
    refine ⟨position, earlier, latest, ?_, coupled⟩
    rw [operations, shape, if_neg (fresh vm vmMem), List.append_nil]
  · have unused : db.operationsOf context.vmId = [] := by
      rw [List.eq_nil_iff_forall_not_mem]
      intro operation operationMem
      rcases Database.mem_operationsOf.mp operationMem with ⟨operationStored, same⟩
      rcases Database.exists_vm_of_operation operationStored with ⟨vm, vmMem, vmId⟩
      exact fresh vm vmMem (same.symm.trans vmId.symm)
    refine ⟨.pending .clone, [], newCreateOperation context.operationId context.vmId
      idempotencyKey context.now, ?_, newCreateOperation_matches _ _ _, ?_, .inr ⟨rfl, rfl, rfl⟩,
      by simp, .inl ⟨rfl, rfl⟩⟩
    · simp [operations, newVm, unused]
    · simp [newVm, Position.vmStatuses]

/-- The first stage of a lifecycle operation. -/
def OperationType.firstStage : OperationType → Stage
  | .vmCreate => .clone
  | .vmStart => .start
  | .vmShutdown => .shutdown
  | .vmStop => .stop
  | .vmReboot => .rebootShutdown
  | .vmDelete => .delete

/-- A new lifecycle operation waits for its first stage. -/
theorem newLifecycleOperation_matches (id vmId : Uuid) (now : Time)
    (kind : operationType ≠ .vmCreate) :
    (Position.pending operationType.firstStage).Matches
      (newLifecycleOperation id vmId operationType idempotencyKey now) := by
  cases operationType <;> first
    | exact absurd rfl kind
    | exact ⟨rfl, rfl, by simp [newLifecycleOperation, Position.phases,
        OperationType.firstStage, Stage.pendingPhase], rfl⟩

/-- A new lifecycle operation follows an operation that has ended. -/
theorem Enqueued.vmCoupled {vm : VirtualMachine}
    (enqueued : Enqueued db next context userId vmId operationType idempotencyKey vm)
    (before : ∀ vm ∈ db.virtualMachines, db.VmCoupled vm) :
    ∀ vm ∈ next.virtualMachines, next.VmCoupled vm := by
  have vms : next.virtualMachines = db.virtualMachines := by rw [enqueued.tables]
  have operations : ∀ id, next.operationsOf id = db.operationsOf id ++
      if vmId = id then [newLifecycleOperation context.operationId vmId operationType
        idempotencyKey context.now] else [] := by
    intro id
    unfold Database.operationsOf
    rw [enqueued.tables, List.filter_append]
    by_cases same : vmId = id <;> simp [newLifecycleOperation, same]
  intro other otherMem
  rw [vms] at otherMem
  rcases before other otherMem with ⟨position, earlier, latest, shape, coupled⟩
  by_cases same : vmId = other.id
  · rcases Database.virtualMachine?_eq_some_iff.mp enqueued.vmStored with ⟨vmMem, isVm⟩
    obtain rfl : vm = other :=
      KeyedRows.eq_of_key_eq db.valid.vmIds vmMem otherMem (isVm.trans same)
    rcases enqueued.allowed with ⟨statuses, allowed, status⟩
    have latestMem : latest ∈ db.operationsOf vmId := by
      rw [same, shape]
      simp
    have terminal : position.Terminal := by
      by_contra running
      exact enqueued.inactive latest latestMem (coupled.atPosition.active_iff.mpr running)
    have kind : operationType ≠ .vmCreate := by
      rintro rfl
      cases allowed
    refine ⟨.pending operationType.firstStage, earlier ++ [latest], newLifecycleOperation
      context.operationId vmId operationType idempotencyKey context.now, ?_,
      newLifecycleOperation_matches _ _ _ kind, ?_, ?_, ?_, ?_⟩
    · rw [operations, shape, if_pos same]
    · cases operationType <;> simp only [allowedStatuses, reduceCtorEq, Option.some.injEq]
        at allowed <;> subst allowed <;>
        simpa [OperationType.firstStage, Position.vmStatuses, Stage.waitStatus] using status
    · rcases coupled.placement with isPlaced | ⟨rfl, _⟩
      · exact .inl isPlaced
      · exact False.elim terminal
    · intro operation operationMem
      rcases List.mem_append.mp operationMem with isEarlier | isLatest
      · exact coupled.ended operation isEarlier
      · rcases List.mem_singleton.mp isLatest with rfl
        exact ⟨position, coupled.atPosition, terminal⟩
    · right
      rcases coupled.create with ⟨rfl, created⟩ | ⟨create, later, rfl, created, succeeded, others,
        latestKind⟩
      · refine ⟨latest, [], rfl, created, ?_, by simp, kind⟩
        refine coupled.succeeded_of_terminal terminal created ?_
        cases operationType <;> simp only [allowedStatuses, reduceCtorEq, Option.some.injEq]
          at allowed <;> subst allowed <;> simp_all
      · refine ⟨create, later ++ [latest], rfl, created, succeeded, ?_, kind⟩
        intro operation operationMem
        rcases List.mem_append.mp operationMem with isLater | isLatest
        · exact others operation isLater
        · rcases List.mem_singleton.mp isLatest with rfl
          exact latestKind
  · refine ⟨position, earlier, latest, ?_, coupled⟩
    rw [operations, shape, if_neg same, List.append_nil]

end Requests

end NpdPortal
