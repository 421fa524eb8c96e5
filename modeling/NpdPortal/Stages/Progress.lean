import NpdPortal.Stages.Coupling
import NpdPortal.Stages.Eligibility

/-!
# Steps of the portal

`World.Sound` is the invariant of the portal.  In a sound world `Progress` lists
everything a step can do in terms of the stage machine; the invariants of
whole runs are derived from it.
-/

namespace NpdPortal

/-- The rows of every VM fit together and its SSH key is in place. -/
structure Database.Sound (db : Database) : Prop where
  coupled : ∀ vm ∈ db.virtualMachines, db.VmCoupled vm
  sshKeys : ∀ vm ∈ db.virtualMachines, HasSshKey db vm

/-- The dispatch was made for this stage of the operation. -/
structure Dispatch.For (dispatch : Dispatch) (stage : Stage) (operation : Operation) : Prop where
  kind : operation.operationType = stage.operationType
  made : ∃ before request target, dispatch = stage.dispatch before request target ∧
    before.id = operation.id

/-- The invariant of the portal. -/
structure World.Sound (world : World) : Prop where
  db : world.db.Sound
  flights : ∀ flight ∈ world.inFlight, ∃ operation ∈ world.db.operations, ∃ stage,
    flight.dispatch.For stage operation

theorem Stage.dispatch_operationId (stage : Stage) (operation : Operation)
    (request : Option CreateVmRequest) (target : ProviderPlacement) :
    (stage.dispatch operation request target).operationId = operation.id := by
  cases stage <;> rfl

theorem Dispatch.For.operationId {dispatch : Dispatch} {stage : Stage} {operation : Operation}
    (isFor : dispatch.For stage operation) : dispatch.operationId = operation.id := by
  rcases isFor.made with ⟨before, request, target, rfl, same⟩
  rw [Stage.dispatch_operationId, same]

/-- The kind of an operation and the dispatch determine the stage. -/
theorem Dispatch.For.stage_unique {dispatch : Dispatch} {first second : Stage}
    {operation : Operation} (isFirst : dispatch.For first operation)
    (isSecond : dispatch.For second operation) : first = second := by
  rcases isFirst.made with ⟨before, request, target, rfl, _⟩
  rcases isSecond.made with ⟨before', request', target', same, _⟩
  have kinds : first.operationType = second.operationType :=
    isFirst.kind.symm.trans isSecond.kind
  cases first <;> cases second <;>
    simp_all [Stage.dispatch, Stage.operationType]

section Database

variable {db : Database}

/-- Every operation is at some position, and an active one is ready to be processed. -/
theorem Database.Sound.ready (sound : db.Sound) {operation : Operation}
    (stored : operation ∈ db.operations) :
    ∃ position vm, position.Matches operation ∧ vm ∈ db.virtualMachines ∧
      vm.id = operation.virtualMachineId ∧
      (¬position.Terminal → Ready db operation vm position ∧ vm.status ∈ position.vmStatuses) := by
  rcases Database.exists_vm_of_operation stored with ⟨vm, vmMem, vmId⟩
  rcases sound.coupled vm vmMem with ⟨position, earlier, latest, shape, coupled⟩
  have operationMem : operation ∈ earlier ++ [latest] := by
    rw [← shape]
    exact Database.mem_operationsOf.mpr ⟨stored, vmId.symm⟩
  rcases List.mem_append.mp operationMem with isEarlier | isLatest
  · rcases coupled.ended operation isEarlier with ⟨ending, atEnding, terminal⟩
    exact ⟨ending, vm, atEnding, vmMem, vmId, fun running => absurd terminal running⟩
  · rcases List.mem_singleton.mp isLatest with rfl
    refine ⟨position, vm, coupled.atPosition, vmMem, vmId, fun _ => ⟨⟨?_, ?_, ?_⟩, ?_⟩⟩
    · exact Database.virtualMachine?_eq_some_iff.mpr ⟨vmMem, vmId⟩
    · exact sound.sshKeys vm vmMem
    · exact coupled.placement
    · exact coupled.status

/-- The SSH key of a VM stays in place while key rows are kept. -/
theorem HasSshKey.mono {next : Database} {vm other : VirtualMachine} (hasKey : HasSshKey db vm)
    (kept : ∀ key ∈ db.sshPublicKeys, key ∈ next.sshPublicKeys)
    (sameKey : other.sshPublicKeyId = vm.sshPublicKeyId)
    (sameOwner : other.ownerUserId = vm.ownerUserId) : HasSshKey next other := by
  rcases hasKey with ⟨keyId, keyIdMem, key, keyMem, owned⟩
  rcases Database.sshPublicKey?_eq_some_iff.mp keyMem with ⟨stored, same⟩
  exact ⟨keyId, sameKey ▸ keyIdMem, key,
    Database.sshPublicKey?_eq_some_iff.mpr ⟨kept key stored, same⟩, sameOwner ▸ owned⟩

theorem Moved.sound {next : Database} {evidence : Evidence} {operation updated : Operation}
    {vm : VirtualMachine} {position reached : Position} {change : VmChange}
    (moved : Moved db next evidence operation updated vm position reached change)
    (sound : db.Sound) : next.Sound := by
  refine ⟨moved.vmCoupled sound.coupled, ?_⟩
  have kept : ∀ key ∈ db.sshPublicKeys, key ∈ next.sshPublicKeys := by
    rw [moved.sshPublicKeys]
    exact fun _ keyMem => keyMem
  intro other otherMem
  rw [moved.virtualMachines, KeyedRows.mem_replace] at otherMem
  rcases otherMem with ⟨rfl, _⟩ | ⟨otherMem, _⟩
  · exact (sound.sshKeys vm moved.vmMem).mono kept (change.apply_sshPublicKeyId vm)
      (change.apply_ownerUserId vm)
  · exact (sound.sshKeys other otherMem).mono kept rfl rfl

theorem Created.sound {next : Database} {context : RequestContext} {userId : Uuid}
    {request : VirtualMachineCreate} {idempotencyKey : String}
    (created : Created db next context userId request idempotencyKey) (sound : db.Sound) :
    next.Sound := by
  refine ⟨created.vmCoupled sound.coupled, ?_⟩
  have kept : ∀ key ∈ db.sshPublicKeys, key ∈ next.sshPublicKeys := by
    rw [created.tables]
    exact fun _ keyMem => keyMem
  intro vm vmMem
  rw [created.tables, List.mem_append, List.mem_singleton] at vmMem
  rcases vmMem with vmMem | rfl
  · exact (sound.sshKeys vm vmMem).mono kept rfl rfl
  · rcases created.sshKey with ⟨key, keyMem, same, owned⟩
    exact ⟨request.sshPublicKeyId, rfl, key,
      Database.sshPublicKey?_eq_some_iff.mpr ⟨kept key keyMem, same⟩, owned⟩

theorem Enqueued.sound {next : Database} {context : RequestContext} {userId vmId : Uuid}
    {operationType : OperationType} {idempotencyKey : String} {vm : VirtualMachine}
    (enqueued : Enqueued db next context userId vmId operationType idempotencyKey vm)
    (sound : db.Sound) : next.Sound := by
  refine ⟨enqueued.vmCoupled sound.coupled, ?_⟩
  have kept : ∀ key ∈ db.sshPublicKeys, key ∈ next.sshPublicKeys := by
    rw [enqueued.tables]
    exact fun _ keyMem => keyMem
  intro other otherMem
  have otherStored : other ∈ db.virtualMachines := by
    rw [enqueued.tables] at otherMem
    exact otherMem
  exact (sound.sshKeys other otherStored).mono kept rfl rfl

theorem Database.Administers.sound {next : Database} (administers : db.Administers next)
    (sound : db.Sound) : next.Sound := by
  constructor
  · intro vm vmMem
    rw [administers.vms] at vmMem
    rcases sound.coupled vm vmMem with ⟨position, earlier, latest, shape, coupled⟩
    refine ⟨position, earlier, latest, ?_, coupled⟩
    rw [← shape]
    unfold Database.operationsOf
    rw [administers.operations]
  · intro vm vmMem
    rw [administers.vms] at vmMem
    exact (sound.sshKeys vm vmMem).mono administers.sshKeys rfl rfl

/-! ## Commits of the worker -/

theorem Operation.onUpdate_sameIdentity {before after : Operation} (dbNow : Time)
    (same : before.SameIdentity after) : before.SameIdentity (before.onUpdate after dbNow) := by
  unfold Operation.onUpdate
  split
  · exact same
  · split
    · exact ⟨same.id, same.virtualMachineId, same.operationType, same.idempotencyKey⟩
    · exact same

theorem Evidence.KeepsTask.onUpdate {evidence : Evidence} {before after : Operation}
    {target : Position} (keeps : evidence.KeepsTask before after target) (dbNow : Time) :
    evidence.KeepsTask before (before.onUpdate after dbNow) target := by
  unfold Operation.onUpdate
  split
  · exact keeps
  · split <;> exact keeps

theorem Position.Matches.onUpdate {position : Position} {before after : Operation}
    (atPosition : position.Matches after) (dbNow : Time) :
    position.Matches (before.onUpdate after dbNow) := by
  unfold Operation.onUpdate
  split
  · exact atPosition
  · split
    · exact ⟨atPosition.operationType, atPosition.status, atPosition.phase, atPosition.task⟩
    · exact atPosition

/-- A move keeps a placement, and it needs one unless it makes one. -/
theorem Advance.placedFor {evidence : Evidence} {position reached : Position}
    {change : VmChange} {vm : VirtualMachine} (advance : Advance evidence position reached change)
    (before : vm.PlacedFor position)
    (isPlaced : evidence = .marked → ∃ target : ProviderPlacement,
      vm.providerNode = some target.node ∧ vm.providerVmid = some target.vmid) :
    (change.apply vm).PlacedFor reached := by
  have keeps : (∃ target : ProviderPlacement, vm.providerNode = some target.node ∧
      vm.providerVmid = some target.vmid) → (change.apply vm).PlacedFor reached := by
    rintro ⟨target, node, vmid⟩
    left
    cases change with
    | place other => exact ⟨other, rfl, rfl⟩
    | _ => exact ⟨target, node, vmid⟩
  rcases before with placed | ⟨rfl, _⟩
  · exact keeps placed
  · cases advance with
    | place target => exact .inl ⟨target, rfl, rfl⟩
    | mark stage => exact keeps (isPlaced rfl)
    | confirmed _ _ _ awaits _ => simp [Position.Awaits] at awaits
    | unconfirmed _ _ _ awaits _ _ => simp [Position.Awaits] at awaits
    | readRaised _ _ _ awaits _ => simp [Position.Awaits] at awaits
    | review _ _ awaits _ => simp [Position.Awaits] at awaits
    | storeTask _ _ _ _ _ waiting => simp at waiting

/-- A committed transaction of the worker is a move. -/
theorem moved_of_flush {next : Database} {evidence : Evidence} {operation : Operation}
    {vm : VirtualMachine} {position reached : Position} {changes : Changes} {dbNow : Time}
    (stored : operation ∈ db.operations) (ready : Ready db operation vm position)
    (status : vm.status ∈ position.vmStatuses) (atPosition : position.Matches operation)
    (refines : changes.Refines evidence position operation vm reached)
    (isPlaced : evidence = .marked → ∃ target : ProviderPlacement,
      vm.providerNode = some target.node ∧ vm.providerVmid = some target.vmid)
    (flushed : db.flush dbNow operation changes = some next) :
    ∃ change, Moved db next evidence operation (operation.onUpdate changes.operation dbNow) vm
      position reached change := by
  rcases refines with ⟨change, advance, atReached, identity, written, keeps, _⟩
  refine ⟨change, stored, ready, atPosition, status, advance, atReached.onUpdate dbNow,
    Operation.onUpdate_sameIdentity dbNow identity, keeps.onUpdate dbNow,
    advance.placedFor ready.placement isPlaced, ?_⟩
  have tables := Database.commit_eq_some flushed
  rw [tables, written]
  cases change with
  | keep =>
      have vmMem := (Database.virtualMachine?_eq_some_iff.mp ready.vmStored).1
      simp [VmChange.write, VmChange.apply, Database.writeVm,
        KeyedRows.replace_eq_self db.valid.vmIds vmMem]
  | _ => rfl

/-- The columns which the constraints look at. -/
theorem Tables.Valid.of_columns {tables other : Tables} (valid : tables.Valid)
    (vmIds : other.virtualMachines.map (·.id) = tables.virtualMachines.map (·.id))
    (vmids : (other.virtualMachines.filterMap (·.providerVmid)).Nodup)
    (vmKeys : other.virtualMachines.map (·.sshPublicKeyId) =
      tables.virtualMachines.map (·.sshPublicKeyId))
    (operationIds : other.operations.map (·.id) = tables.operations.map (·.id))
    (keys : other.operations.map (·.idempotencyKey) = tables.operations.map (·.idempotencyKey))
    (operationVms : other.operations.map (·.virtualMachineId) =
      tables.operations.map (·.virtualMachineId))
    (sshPublicKeys : other.sshPublicKeys = tables.sshPublicKeys)
    (userQuotas : other.userQuotas = tables.userQuotas)
    (computePlans : other.computePlans = tables.computePlans)
    (vmFits : ∀ vm ∈ other.virtualMachines, vm.Fits)
    (operationFits : ∀ operation ∈ other.operations, operation.Fits) : other.Valid where
  vmIds := vmIds ▸ valid.vmIds
  operationIds := operationIds ▸ valid.operationIds
  sshKeyIds := sshPublicKeys ▸ valid.sshKeyIds
  quotaUsers := userQuotas ▸ valid.quotaUsers
  planIds := computePlans ▸ valid.planIds
  idempotencyKeys := keys ▸ valid.idempotencyKeys
  providerVmids := vmids
  operationVms operation operationMem := by
    have column : operation.virtualMachineId ∈ tables.operations.map (·.virtualMachineId) :=
      operationVms ▸ List.mem_map_of_mem operationMem
    rcases List.mem_map.mp column with ⟨old, oldMem, same⟩
    exact vmIds ▸ same ▸ valid.operationVms old oldMem
  vmSshKeys vm vmMem := by
    have column : vm.sshPublicKeyId ∈ tables.virtualMachines.map (·.sshPublicKeyId) :=
      vmKeys ▸ List.mem_map_of_mem vmMem
    rcases List.mem_map.mp column with ⟨old, oldMem, same⟩
    exact sshPublicKeys ▸ same ▸ valid.vmSshKeys old oldMem
  quotaPlans := by
    rw [userQuotas, computePlans]
    exact valid.quotaPlans
  vmFits := vmFits
  operationFits := operationFits

theorem Operation.onUpdate_fits_iff (before after : Operation) (dbNow : Time) :
    (before.onUpdate after dbNow).Fits ↔ after.Fits := by
  unfold Operation.onUpdate
  split
  · rfl
  · split
    · exact ⟨fun ⟨phase, code, task⟩ => ⟨phase, code, task⟩,
        fun ⟨phase, code, task⟩ => ⟨phase, code, task⟩⟩
    · rfl

/-- What a committed move writes fits the columns. -/
theorem operation_fits_of_flush {operation : Operation} {changes : Changes} {dbNow : Time}
    {next : Database} (stored : operation ∈ db.operations)
    (identity : operation.SameIdentity changes.operation)
    (flushed : db.flush dbNow operation changes = some next) : changes.operation.Fits := by
  have fits := next.valid.operationFits
  rw [Database.commit_eq_some flushed] at fits
  refine (operation.onUpdate_fits_iff changes.operation dbNow).mp (fits _ ?_)
  exact KeyedRows.mem_replace.mpr
    (.inl ⟨rfl, operation, stored, (Operation.onUpdate_sameIdentity dbNow identity).id.symm⟩)

/-- A commit that changes no key is rejected only for a VMID that is in use or for a value which
its column does not take. -/
theorem exists_flush_iff {operation : Operation} {vm : VirtualMachine} {changes : Changes}
    (dbNow : Time) (stored : operation ∈ db.operations)
    (identity : operation.SameIdentity changes.operation) (vmMem : vm ∈ db.virtualMachines)
    (vmKept : ∀ written ∈ changes.vm, written.id = vm.id ∧
      written.sshPublicKeyId = vm.sshPublicKeyId) :
    (∃ next, db.flush dbNow operation changes = some next) ↔
      ((db.writeVm changes.vm).filterMap (·.providerVmid)).Nodup ∧
        changes.operation.Fits ∧ ∀ written ∈ changes.vm, written.Fits := by
  have same := Operation.onUpdate_sameIdentity dbNow identity
  have isOperation : ∀ old ∈ db.operations,
      old.id = (operation.onUpdate changes.operation dbNow).id → old = operation :=
    fun old oldMem equal => KeyedRows.eq_of_key_eq db.valid.operationIds oldMem stored
      (equal.trans same.id)
  have vmColumns : ∃ written, db.writeVm changes.vm =
        KeyedRows.replace VirtualMachine.id written db.virtualMachines ∧ written.id = vm.id ∧
        written.sshPublicKeyId = vm.sshPublicKeyId ∧
        ((∀ row ∈ changes.vm, row.Fits) ↔ written.Fits) := by
    cases written : changes.vm with
    | none =>
        exact ⟨vm, (KeyedRows.replace_eq_self db.valid.vmIds vmMem).symm, rfl, rfl,
          by simpa using db.valid.vmFits vm vmMem⟩
    | some row => exact ⟨row, rfl, (vmKept row written).1, (vmKept row written).2, by simp⟩
  rcases vmColumns with ⟨written, rows, writtenId, writtenKey, writtenFits⟩
  have isVm : ∀ old ∈ db.virtualMachines, old.id = written.id → old = vm :=
    fun old oldMem equal => KeyedRows.eq_of_key_eq db.valid.vmIds oldMem vmMem
      (equal.trans writtenId)
  constructor
  · rintro ⟨next, flushed⟩
    have tables := Database.commit_eq_some flushed
    have vmids := next.valid.providerVmids
    have vmFits := next.valid.vmFits
    rw [tables] at vmids vmFits
    refine ⟨vmids, operation_fits_of_flush stored identity flushed, writtenFits.mpr ?_⟩
    simp only [rows] at vmFits
    exact vmFits _ (KeyedRows.mem_replace.mpr (.inl ⟨rfl, vm, vmMem, writtenId.symm⟩))
  · rintro ⟨vmids, operationFits, vmFits⟩
    rw [rows] at vmids
    have valid : Tables.Valid { db.toTables with
        operations := KeyedRows.replace Operation.id
          (operation.onUpdate changes.operation dbNow) db.operations
        virtualMachines := KeyedRows.replace VirtualMachine.id written db.virtualMachines } := by
      refine db.valid.of_columns (KeyedRows.map_key_replace _ _) vmids
        (KeyedRows.map_replace _ fun old oldMem equal => ?_) (KeyedRows.map_key_replace _ _)
        (KeyedRows.map_replace _ fun old oldMem equal => ?_)
        (KeyedRows.map_replace _ fun old oldMem equal => ?_) rfl rfl rfl ?_ ?_
      · rw [isVm old oldMem equal, writtenKey]
      · rw [isOperation old oldMem equal, same.idempotencyKey]
      · rw [isOperation old oldMem equal, same.virtualMachineId]
      · intro row rowMem
        rcases KeyedRows.mem_replace.mp rowMem with ⟨rfl, _⟩ | ⟨old, _⟩
        · exact writtenFits.mp vmFits
        · exact db.valid.vmFits row old
      · intro row rowMem
        rcases KeyedRows.mem_replace.mp rowMem with ⟨rfl, _⟩ | ⟨old, _⟩
        · exact (operation.onUpdate_fits_iff changes.operation dbNow).mpr operationFits
        · exact db.valid.operationFits row old
    exact ⟨_, by rw [Database.flush, rows, Database.commit_of_valid valid]⟩

/-- A commit that changes no key and no placement is rejected only for the row of the
operation. -/
theorem exists_flush_of_kept {operation : Operation} {vm : VirtualMachine} {changes : Changes}
    (dbNow : Time) (stored : operation ∈ db.operations)
    (identity : operation.SameIdentity changes.operation) (vmMem : vm ∈ db.virtualMachines)
    (vmKept : ∀ written ∈ changes.vm, written.id = vm.id ∧
      written.providerVmid = vm.providerVmid ∧ written.providerNode = vm.providerNode ∧
      written.sshPublicKeyId = vm.sshPublicKeyId) (fits : changes.operation.Fits) :
    ∃ next, db.flush dbNow operation changes = some next := by
  rw [exists_flush_iff dbNow stored identity vmMem
    fun written writtenMem => ⟨(vmKept written writtenMem).1, (vmKept written writtenMem).2.2.2⟩]
  cases written : changes.vm with
  | none => exact ⟨db.valid.providerVmids, fits, by simp⟩
  | some row =>
      rcases vmKept row written with ⟨sameId, sameVmid, sameNode, _⟩
      refine ⟨?_, fits, ?_⟩
      · rw [Database.writeVm, KeyedRows.filterMap_replace]
        · exact db.valid.providerVmids
        · intro old oldMem equal
          rw [KeyedRows.eq_of_key_eq db.valid.vmIds oldMem vmMem (equal.trans sameId), sameVmid]
      · rintro other ⟨⟩
        have vmFits := db.valid.vmFits vm vmMem
        exact ⟨sameVmid ▸ vmFits.providerVmid, sameNode ▸ vmFits.providerNode⟩

/-- Only the choice of a placement writes the placement of a VM. -/
theorem Advance.ne_place {evidence : Evidence} {position reached : Position} {change : VmChange}
    (advance : Advance evidence position reached change)
    (notPlaced : ∀ target, evidence ≠ .placed target) (target : ProviderPlacement) :
    change ≠ .place target := by
  rintro rfl
  generalize same : VmChange.place target = change at advance
  cases advance with
  | place other => exact notPlaced other rfl
  | mark stage => cases stage <;> simp [Stage.markChange] at same
  | pollSucceeded stage => cases stage <;>
      simp [Stage.pollChange, Stage.doneChange, Stage.doneStatus] at same
  | pollFailed stage => cases stage <;> simp [Stage.failChange, Stage.operationType] at same
  | confirmed stage => cases stage <;> simp [Stage.doneChange, Stage.doneStatus] at same
  | storeTask stage => cases stage <;> simp [Stage.taskChange] at same
  | storeDone stage => cases stage <;> simp [Stage.doneChange, Stage.doneStatus] at same
  | storeInProgress stage => cases stage <;> simp [Stage.taskChange] at same
  | _ => cases same

theorem workerCodes_fit : ∀ code ∈ workerCodes, ∀ text ∈ code, Sql.FitsVarchar 100 text := by
  decide +kernel

theorem Changes.Refines.identity {evidence : Evidence} {operation : Operation}
    {vm : VirtualMachine} {position reached : Position} {changes : Changes}
    (refines : changes.Refines evidence position operation vm reached) :
    operation.SameIdentity changes.operation := by
  rcases refines with ⟨_, _, _, identity, _⟩
  exact identity

/-- A move writes what fits the columns if the evidence does. -/
theorem Changes.Refines.operation_fits {evidence : Evidence} {operation : Operation}
    {vm : VirtualMachine} {position reached : Position} {changes : Changes}
    (refines : changes.Refines evidence position operation vm reached) (before : operation.Fits)
    (fits : evidence.Fits) : changes.operation.Fits := by
  rcases refines with ⟨change, advance, atReached, _, _, keepsTask, keepsCode⟩
  refine ⟨reached.phases_fit _ atReached.phase, ?_, ?_⟩
  · intro code written
    unfold Evidence.KeepsCode at keepsCode
    split at keepsCode
    · rename_i brought
      rcases Option.some.inj (keepsCode.symm.trans written) with rfl
      cases evidence with
      | polled answer =>
          cases answer with
          | error error => cases brought
          | ok status =>
              simp only [Evidence.failure?, Option.ite_none_right_eq_some,
                Option.some.injEq] at brought
              exact brought.2 ▸ fits brought.1
      | _ => cases brought
    · rcases keepsCode with kept | own
      · exact before.lastErrorCode code (kept ▸ written)
      · exact workerCodes_fit _ own code written
  · intro taskId written
    have kept : ∀ stage, (∃ backoff, reached = .polling stage backoff) ∨ reached = .failed stage →
        Sql.FitsVarchar 255 taskId := by
      intro stage atStage
      have brought := (keepsTask stage atStage).symm.trans written
      unfold Evidence.task at brought
      split at brought
      · split at brought
        · rename_i result task carries
          rcases Option.some.inj brought with rfl
          exact fits task (Stage.task_of_reply carries)
        · cases brought
      · exact before.providerTaskId taskId brought
    have hasTask := atReached.task
    rw [written] at hasTask
    cases reached with
    | polling stage backoff => exact kept stage (.inl ⟨backoff, rfl⟩)
    | failed stage => exact kept stage (.inr rfl)
    | _ => cases hasTask

/-- The evidence of a move that chooses no placement fits if what the move writes does. -/
theorem Changes.Refines.evidence_fits {evidence : Evidence} {operation : Operation}
    {vm : VirtualMachine} {position reached : Position} {changes : Changes}
    (refines : changes.Refines evidence position operation vm reached)
    (notPlaced : ∀ target, evidence ≠ .placed target) (after : changes.operation.Fits) :
    evidence.Fits := by
  rcases refines with ⟨change, advance, _, _, _, keepsTask, keepsCode⟩
  cases evidence with
  | placed target => exact absurd rfl (notPlaced target)
  | polled answer =>
      cases answer with
      | error error => trivial
      | ok status =>
          intro failed
          have brought : Evidence.failure? (.polled (.ok status)) = some (failureCode status) :=
            if_pos failed
          rw [Evidence.KeepsCode, brought] at keepsCode
          exact after.lastErrorCode _ keepsCode
  | outcome answer =>
      cases answer with
      | error error => trivial
      | ok result =>
          intro task carries
          cases advance with
          | storeTask stage position _ other isTask waiting =>
              have kept := keepsTask stage (.inl ⟨false, rfl⟩)
              cases Stage.reply_of_task carries isTask
              rw [Evidence.task, isTask] at kept
              exact after.providerTaskId _ kept
          | storeDone stage _ done => cases Stage.reply_of_task carries done
          | storeInProgress stage _ inProgress => cases Stage.reply_of_task carries inProgress
  | _ => trivial

/-- A move that chooses no placement commits if the columns take what the evidence brings. -/
theorem Changes.Refines.exists_flush {evidence : Evidence} {operation : Operation}
    {vm : VirtualMachine} {position reached : Position} {changes : Changes}
    (refines : changes.Refines evidence position operation vm reached) (dbNow : Time)
    (stored : operation ∈ db.operations) (vmMem : vm ∈ db.virtualMachines)
    (notPlaced : ∀ target, evidence ≠ .placed target) (fits : evidence.Fits) :
    ∃ next, db.flush dbNow operation changes = some next := by
  have operationFits := refines.operation_fits (db.valid.operationFits operation stored) fits
  rcases refines with ⟨change, advance, _, identity, written, _⟩
  refine exists_flush_of_kept dbNow stored identity vmMem ?_ operationFits
  rw [written]
  intro row rowMem
  cases change with
  | keep => cases rowMem
  | setStatus status =>
      cases rowMem
      exact ⟨rfl, rfl, rfl, rfl⟩
  | place target => exact absurd rfl (advance.ne_place notPlaced target)

/-- The moved row as it is stored. -/
theorem Moved.stored_updated {next : Database} {evidence : Evidence}
    {operation updated : Operation} {vm : VirtualMachine} {position reached : Position}
    {change : VmChange}
    (moved : Moved db next evidence operation updated vm position reached change) :
    next.operation? operation.id = some updated := by
  rw [Database.operation?_eq_some_iff, moved.operations]
  exact ⟨KeyedRows.mem_replace.mpr (.inl ⟨rfl, operation, moved.stored, moved.identity.id.symm⟩),
    moved.identity.id⟩

end Database

/-! ## One step -/

/-- Everything a step of a sound world can do. -/
inductive Progress (world : World) : Event → World → Prop where
  /-- A request raised or returned the row of an earlier one. -/
  | unchanged : Progress world .requested world
  | created (next : Database) (context : RequestContext) (userId : Uuid)
      (request : VirtualMachineCreate) (idempotencyKey : String)
      (created : Created world.db next context userId request idempotencyKey) :
      Progress world .requested { world with db := next }
  | enqueued (next : Database) (context : RequestContext) (userId vmId : Uuid)
      (operationType : OperationType) (idempotencyKey : String) (vm : VirtualMachine)
      (enqueued : Enqueued world.db next context userId vmId operationType idempotencyKey vm) :
      Progress world .requested { world with db := next }
  | administered (next : Database) (administers : world.db.Administers next) :
      Progress world .administered { world with db := next }
  /-- A selecting transaction was rolled back. -/
  | aborted (operation : Operation) (exchanges : List Exchange)
      (stored : operation ∈ world.db.operations)
      (harmless : ∀ exchange ∈ exchanges, ¬exchange.call.Mutates) :
      Progress world (.selected operation exchanges none) world
  /-- A dispatch marker was committed. -/
  | marked (next : Database) (operation updated : Operation) (vm : VirtualMachine)
      (stage : Stage) (request : Option CreateVmRequest) (target : ProviderPlacement)
      (moved : Moved world.db next .marked operation updated vm (.pending stage)
        (.dispatching stage) stage.markChange) :
      Progress world (.selected operation [] (some updated))
        { db := next
          inFlight := world.inFlight ++ [.submitting (stage.dispatch operation request target)] }
  /-- A selecting transaction followed the operation without sending anything. -/
  | followed (next : Database) (operation updated : Operation) (vm : VirtualMachine)
      (position reached : Position) (change : VmChange) (evidence : Evidence)
      (exchanges : List Exchange) (shows : evidence.Shows operation vm exchanges)
      (unmarked : evidence ≠ .marked)
      (moved : Moved world.db next evidence operation updated vm position reached change) :
      Progress world (.selected operation exchanges (some updated)) { world with db := next }
  | submitted (index : ℕ) (dispatch : Dispatch) (provider : Provider)
      (submitting : world.inFlight[index]? = some (.submitting dispatch)) :
      Progress world
        (.submitted dispatch (Program.run provider 0 dispatch.submit).1
          (Program.run provider 0 dispatch.submit).2)
        ⟨world.db, world.inFlight.set index
          (.storing dispatch (Program.run provider 0 dispatch.submit).2)⟩
  /-- An outcome was stored. -/
  | stored (index : ℕ) (dispatch : Dispatch) (outcome : Except Error ProviderResult)
      (next : Database) (operation updated : Operation) (vm : VirtualMachine)
      (position reached : Position) (change : VmChange)
      (storing : world.inFlight[index]? = some (.storing dispatch outcome))
      (same : operation.id = dispatch.operationId)
      (moved : Moved world.db next (.outcome outcome) operation updated vm position reached
        change) :
      Progress world (.stored dispatch outcome true)
        { db := next, inFlight := world.inFlight.eraseIdx index }
  /-- An outcome was refused. -/
  | refused (index : ℕ) (dispatch : Dispatch) (outcome : Except Error ProviderResult)
      (storing : world.inFlight[index]? = some (.storing dispatch outcome)) :
      Progress world (.stored dispatch outcome false)
        { world with inFlight := world.inFlight.eraseIdx index }
  | lost (index : ℕ) (flight : Flight) (inFlight : world.inFlight[index]? = some flight) :
      Progress world (.lost flight) { world with inFlight := world.inFlight.eraseIdx index }

section Steps

variable {world : World}

/-- The calls that leave a selecting transaction unharmed. -/
theorem Evidence.Shows.harmless {evidence : Evidence} {operation : Operation}
    {vm : VirtualMachine} {exchanges : List Exchange}
    (shows : evidence.Shows operation vm exchanges) :
    ∀ exchange ∈ exchanges, ¬exchange.call.Mutates := by
  cases evidence with
  | placed target =>
      rcases shows with ⟨_, request, rfl⟩
      simp [AdapterCall.Mutates]
  | marked =>
      cases shows
      simp
  | reviewed =>
      cases shows
      simp
  | polled answer =>
      rcases shows with ⟨task, _, _, _, rfl⟩
      simp [AdapterCall.Mutates]
  | read answer =>
      rcases shows with ⟨target, _, _, rfl⟩
      simp [AdapterCall.Mutates]
  | outcome outcome => exact False.elim shows

theorem selectStep_progress (sound : world.Sound) {operation : Operation} {now : Time}
    (provider : Provider) (stamp dbNow : Time) (stored : operation ∈ world.db.operations)
    (eligible : operation.Eligible now) :
    Progress world (world.selectStep operation provider stamp dbNow).1
      (world.selectStep operation provider stamp dbNow).2 := by
  rcases sound.db.ready stored with ⟨position, vm, atPosition, _, _, prepared⟩
  have processed := atPosition.processed_of_eligible eligible
  have running : ¬position.Terminal := by
    cases position <;> first | exact id | exact absurd processed id
  rcases prepared running with ⟨ready, status⟩
  have selected := runSelected_selected stamp provider ready atPosition processed
  unfold World.selectStep
  generalize Program.run provider 0 (runSelected stamp world.db operation) = ran at selected
  cases selected with
  | aborted request error atClone noVmid =>
      exact .aborted operation _ stored (by simp [AdapterCall.Mutates])
  | placed request target atClone noVmid =>
      subst atClone
      cases flushed : world.db.flush dbNow operation
          ⟨operation, some ((VmChange.place target).apply vm)⟩ with
      | none =>
          simp only [flushed]
          exact .aborted operation _ stored (by simp [AdapterCall.Mutates])
      | some next =>
          rcases moved_of_flush stored ready status atPosition
            (placed_refines target atPosition) (fun marked => by cases marked) flushed with
            ⟨change, moved⟩
          simp only [flushed, moved.stored_updated, Option.toList_none, List.map_nil,
            List.append_nil]
          exact .followed next operation _ vm _ _ change (.placed target) _
            ⟨noVmid, request, rfl⟩ (by simp) moved
  | marked stage request target atStage isPlaced =>
      subst atStage
      cases flushed : world.db.flush dbNow operation (stage.prepared stamp operation vm) with
      | none =>
          simp only [flushed]
          exact .aborted operation _ stored (by simp)
      | some next =>
          rcases moved_of_flush stored ready status atPosition
            (Stage.prepared_refines atPosition)
            (fun _ => ⟨target, isPlaced.node, isPlaced.vmid⟩) flushed with ⟨change, moved⟩
          simp only [flushed, moved.stored_updated, Option.toList_some, List.map_cons,
            List.map_nil]
          obtain rfl : change = stage.markChange := by
            cases moved.advance
            rfl
          exact .marked next operation _ vm stage request target moved
  | followed evidence exchanges changes reached shows refines processing =>
      have unmarked : evidence ≠ .marked := by
        rintro rfl
        rcases refines with ⟨change, advance, _⟩
        have pending := atPosition.status
        cases advance
        simp [processing, Position.status] at pending
      cases flushed : world.db.flush dbNow operation changes with
      | none =>
          simp only [flushed]
          exact .aborted operation _ stored shows.harmless
      | some next =>
          rcases moved_of_flush stored ready status atPosition refines
            (fun marked => absurd marked unmarked) flushed with ⟨change, moved⟩
          simp only [flushed, moved.stored_updated, Option.toList_none, List.map_nil,
            List.append_nil]
          exact .followed next operation _ vm _ _ change evidence exchanges shows unmarked moved

/-- An outcome that commits moves the operation its dispatch was made for. -/
theorem storeStep_progress (sound : world.Sound) {index : ℕ} {dispatch : Dispatch}
    {outcome : Except Error ProviderResult} {stamp dbNow : Time} {next : Database}
    (storing : world.inFlight[index]? = some (.storing dispatch outcome))
    (committed : World.storeDatabase world.db dispatch outcome stamp dbNow = some next) :
    Progress world (.stored dispatch outcome true)
      { db := next, inFlight := world.inFlight.eraseIdx index } := by
  unfold World.storeDatabase at committed
  split at committed
  · rename_i operation changes found accepted
    rcases Database.operation?_eq_some_iff.mp found with ⟨stored, same⟩
    rcases sound.flights _ (List.mem_of_getElem? storing) with ⟨known, knownMem, stage, isFor⟩
    simp only [Flight.dispatch] at isFor
    obtain rfl : operation = known :=
      KeyedRows.eq_of_key_eq world.db.valid.operationIds stored knownMem
        (same.trans isFor.operationId)
    rcases isFor.made with ⟨before, request, target, rfl, sameBefore⟩
    rcases sound.db.ready stored with ⟨position, vm, atPosition, _, _, prepared⟩
    have foundBefore : world.db.operation? before.id = some operation := by
      rwa [Stage.dispatch_operationId] at found
    rcases storeOutcome_refines foundBefore atPosition
      (fun running => (prepared running).1) isFor.kind accepted with ⟨reached, refines⟩
    have running : ¬position.Terminal := by
      rcases refines with ⟨change, advance, _⟩
      exact advance.not_terminal
    rcases prepared running with ⟨ready, status⟩
    rcases moved_of_flush stored ready status atPosition refines
      (fun marked => by cases marked) committed with ⟨change, moved⟩
    exact .stored index _ outcome next operation _ vm position reached change storing same moved
  · cases committed

/-- In a sound world every step is one of the listed ones. -/
theorem step_progress (sound : world.Sound) {event : Event} {next : World}
    (step : portal.step world event next) : Progress world event next := by
  rcases step with ⟨action, step⟩
  cases action with
  | createVm context userId request idempotencyKey =>
      simp only [World.step?, Option.some.injEq, Prod.mk.injEq] at step
      rcases step with ⟨rfl, rfl⟩
      cases result : createVm world.db context userId request idempotencyKey with
      | error error => exact .unchanged
      | ok served =>
          rcases served with ⟨db, vm⟩
          rcases createVm_eq_ok result with ⟨created, _⟩ | ⟨rfl, _⟩
          · exact .created db context userId request idempotencyKey created
          · exact .unchanged
  | enqueue context userId vmId operationType idempotencyKey =>
      simp only [World.step?, Option.some.injEq, Prod.mk.injEq] at step
      rcases step with ⟨rfl, rfl⟩
      cases result : enqueueVmOperation world.db context userId vmId operationType
          idempotencyKey with
      | error error => exact .unchanged
      | ok served =>
          rcases served with ⟨db, operation⟩
          rcases enqueueVmOperation_eq_ok result with ⟨vm, enqueued, _⟩ | ⟨rfl, _⟩
          · exact .enqueued db context userId vmId operationType idempotencyKey vm enqueued
          · exact .unchanged
  | administer administration =>
      simp only [World.step?] at step
      split at step
      · cases step
      · split at step <;> cases step
        exact .administered _ ‹_›
  | select now locked operationId provider stamp dbNow =>
      simp only [World.step?] at step
      split at step
      · cases step
      · split at step
        · rename_i operation _ selects
          have progress := selectStep_progress sound provider stamp dbNow selects.stored
            selects.eligible
          rwa [Option.some.inj step] at progress
        · cases step
  | submit index provider =>
      simp only [World.step?] at step
      split at step <;> cases step
      exact .submitted index _ provider ‹_›
  | store index stamp dbNow =>
      simp only [World.step?] at step
      split at step
      · rename_i dispatch outcome storing
        split at step <;> cases step
        · rename_i db committed
          exact storeStep_progress sound storing committed
        · exact .refused index dispatch outcome storing
      · cases step
  | lose index =>
      simp only [World.step?] at step
      split at step <;> cases step
      exact .lost index _ ‹_›

theorem Dispatch.For.of_sameIdentity {dispatch : Dispatch} {stage : Stage}
    {operation updated : Operation} (isFor : dispatch.For stage operation)
    (same : operation.SameIdentity updated) : dispatch.For stage updated := by
  rcases isFor.made with ⟨before, request, target, made, sameId⟩
  exact ⟨same.operationType.trans isFor.kind, before, request, target, made,
    sameId.trans same.id.symm⟩

/-- A flight stays known while its operation keeps its identity. -/
theorem Moved.keeps_for {db next : Database} {evidence : Evidence}
    {operation updated : Operation} {vm : VirtualMachine} {position reached : Position}
    {change : VmChange}
    (moved : Moved db next evidence operation updated vm position reached change)
    {dispatch : Dispatch}
    (known : ∃ other ∈ db.operations, ∃ stage, dispatch.For stage other) :
    ∃ other ∈ next.operations, ∃ stage, dispatch.For stage other := by
  rcases known with ⟨other, otherMem, stage, isFor⟩
  by_cases same : other.id = updated.id
  · have isOperation : other = operation :=
      KeyedRows.eq_of_key_eq db.valid.operationIds otherMem moved.stored
        (same.trans moved.identity.id)
    refine ⟨updated, ?_, stage, (isOperation ▸ isFor).of_sameIdentity moved.identity⟩
    exact (Database.operation?_eq_some_iff.mp moved.stored_updated).1
  · refine ⟨other, ?_, stage, isFor⟩
    rw [moved.operations]
    exact KeyedRows.mem_replace.mpr (.inr ⟨otherMem, same⟩)

/-- The invariant is kept by every step. -/
theorem Progress.sound {event : Event} {next : World} (progress : Progress world event next)
    (sound : world.Sound) : next.Sound := by
  cases progress with
  | unchanged => exact sound
  | created db context userId request idempotencyKey created =>
      refine ⟨created.sound sound.db, fun flight flightMem => ?_⟩
      rcases sound.flights flight flightMem with ⟨operation, operationMem, known⟩
      refine ⟨operation, ?_, known⟩
      rw [created.tables]
      exact List.mem_append_left _ operationMem
  | enqueued db context userId vmId operationType idempotencyKey vm enqueued =>
      refine ⟨enqueued.sound sound.db, fun flight flightMem => ?_⟩
      rcases sound.flights flight flightMem with ⟨operation, operationMem, known⟩
      refine ⟨operation, ?_, known⟩
      rw [enqueued.tables]
      exact List.mem_append_left _ operationMem
  | administered db administers =>
      refine ⟨administers.sound sound.db, fun flight flightMem => ?_⟩
      rcases sound.flights flight flightMem with ⟨operation, operationMem, known⟩
      exact ⟨operation, administers.operations ▸ operationMem, known⟩
  | aborted operation exchanges stored harmless => exact sound
  | marked db operation updated vm stage request target moved =>
      refine ⟨moved.sound sound.db, fun flight flightMem => ?_⟩
      rcases List.mem_append.mp flightMem with old | new
      · exact moved.keeps_for (sound.flights flight old)
      · rcases List.mem_singleton.mp new with rfl
        refine moved.keeps_for ⟨operation, moved.stored, stage, moved.atPosition.operationType,
          operation, request, target, rfl, rfl⟩
  | followed db operation updated vm position reached change evidence exchanges shows unmarked
      moved =>
      exact ⟨moved.sound sound.db, fun flight flightMem =>
        moved.keeps_for (sound.flights flight flightMem)⟩
  | submitted index dispatch provider submitting =>
      refine ⟨sound.db, fun flight flightMem => ?_⟩
      rcases List.mem_or_eq_of_mem_set flightMem with old | rfl
      · exact sound.flights flight old
      · exact sound.flights (.submitting dispatch) (List.mem_of_getElem? submitting)
  | stored index dispatch outcome db operation updated vm position reached change storing same
      moved =>
      exact ⟨moved.sound sound.db, fun flight flightMem =>
        moved.keeps_for (sound.flights flight (List.mem_of_mem_eraseIdx flightMem))⟩
  | refused index dispatch outcome storing =>
      exact ⟨sound.db, fun flight flightMem =>
        sound.flights flight (List.mem_of_mem_eraseIdx flightMem)⟩
  | lost index flight inFlight =>
      exact ⟨sound.db, fun flight flightMem =>
        sound.flights flight (List.mem_of_mem_eraseIdx flightMem)⟩

theorem World.initial_sound : World.initial.Sound where
  db := ⟨fun _ vmMem => absurd vmMem List.not_mem_nil,
    fun _ vmMem => absurd vmMem List.not_mem_nil⟩
  flights _ flightMem := absurd flightMem List.not_mem_nil

/-- Every reachable world is sound. -/
theorem sound_of_reachable (reachable : portal.Reachable world) : world.Sound := by
  refine reachable.invariant ?_ ?_
  · rintro state rfl
    exact World.initial_sound
  · intro state event next sound step
    exact (step_progress sound step).sound sound

end Steps

end NpdPortal
