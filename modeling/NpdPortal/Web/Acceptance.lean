import NpdPortal.Web.Invariants

/-!
# Which operations a VM accepts

A VM that uses quota and has no active operation is running, stopped or
deleting.  The first two accept an operation; a VM is left deleting by a delete
whose task failed, keeps its quota and accepts nothing.
-/

namespace NpdPortal

/-- A request of the owner with a new key is accepted. -/
def Database.Accepts (db : Database) (vm : VirtualMachine) (operationType : OperationType) :
    Prop :=
  ∀ context idempotencyKey, context.operationId ∉ db.operations.map (·.id) →
    idempotencyKey ∉ db.operations.map (·.idempotencyKey) →
      ∃ next operation, enqueueVmOperation db context vm.ownerUserId vm.id operationType
        idempotencyKey = .ok (next, operation)

/-- Every request of the owner with a new key raises. -/
def Database.Refuses (db : Database) (vm : VirtualMachine) (operationType : OperationType) :
    Prop :=
  ∀ context idempotencyKey, idempotencyKey ∉ db.operations.map (·.idempotencyKey) →
    ∃ error, enqueueVmOperation db context vm.ownerUserId vm.id operationType idempotencyKey =
      .error error

section Acceptance

variable {db : Database} {vm : VirtualMachine} {operationType : OperationType}

/-- A row with a new id, a new key and a stored VM can be inserted. -/
theorem Database.exists_insert {operation : Operation} (fits : operation.Fits)
    (freshId : operation.id ∉ db.operations.map (·.id))
    (freshKey : operation.idempotencyKey ∉ db.operations.map (·.idempotencyKey))
    (vmStored : operation.virtualMachineId ∈ db.virtualMachines.map (·.id)) :
    ∃ next, db.insert [] [operation] = some next := by
  have valid : Tables.Valid { db.toTables with
      virtualMachines := db.virtualMachines ++ []
      operations := db.operations ++ [operation] } := by
    rw [List.append_nil]
    refine { db.valid with
      operationIds := ?_, idempotencyKeys := ?_, operationVms := ?_, operationFits := ?_ }
    · simpa [List.nodup_append, db.valid.operationIds] using freshId
    · simpa [List.nodup_append, db.valid.idempotencyKeys] using freshKey
    · intro other otherMem
      rcases List.mem_append.mp otherMem with old | new
      · exact db.valid.operationVms other old
      · rw [List.mem_singleton.mp new]
        exact vmStored
    · intro other otherMem
      rcases List.mem_append.mp otherMem with old | new
      · exact db.valid.operationFits other old
      · rw [List.mem_singleton.mp new]
        exact fits
  exact ⟨_, Database.commit_of_valid valid⟩

theorem ownVm?_of_mem (stored : vm ∈ db.virtualMachines) :
    ownVm? db vm.ownerUserId vm.id = some vm :=
  ownVm?_eq_some.mpr ⟨Database.virtualMachine?_eq_some_iff.mpr ⟨stored, rfl⟩, rfl⟩

/-- An idle VM accepts what its status allows. -/
theorem accepts_of_allowed {statuses : List VmStatus} (stored : vm ∈ db.virtualMachines)
    (idle : ∀ operation ∈ db.operationsOf vm.id, ¬operation.Active)
    (allowed : allowedStatuses operationType = some statuses) (status : vm.status ∈ statuses) :
    db.Accepts vm operationType := by
  intro context idempotencyKey freshId freshKey
  have unused := Database.operationByKey?_eq_none_iff.mpr freshKey
  let operation := newLifecycleOperation context.operationId vm.id operationType idempotencyKey
    context.now
  have insertable : ∃ next, db.insert [] [operation] = some next :=
    Database.exists_insert (newLifecycleOperation_fits _ _ _ _ _) freshId freshKey
      (List.mem_map_of_mem stored)
  rcases insertable with ⟨next, inserted⟩
  exact ⟨next, _, enqueueVmOperation_of_insert context allowed (ownVm?_of_mem stored) unused idle
    status inserted⟩

/-- A VM refuses what its status does not allow. -/
theorem refuses_of_not_allowed (stored : vm ∈ db.virtualMachines)
    (notAllowed : ∀ statuses, allowedStatuses operationType = some statuses →
      vm.status ∉ statuses) : db.Refuses vm operationType := by
  intro context idempotencyKey freshKey
  have unused := Database.operationByKey?_eq_none_iff.mpr freshKey
  cases result : enqueueVmOperation db context vm.ownerUserId vm.id operationType
      idempotencyKey with
  | error error => exact ⟨error, rfl⟩
  | ok served =>
      exfalso
      rcases served with ⟨next, operation⟩
      rcases enqueueVmOperation_eq_ok result with ⟨other, enqueued, _⟩ | ⟨_, before⟩
      · rcases enqueued.allowed with ⟨statuses, allowed, status⟩
        have isVm := ownVm?_of_mem stored
        have otherStored := ownVm?_eq_some.mpr ⟨enqueued.vmStored, enqueued.owner⟩
        rw [isVm] at otherStored
        cases otherStored
        exact notAllowed statuses allowed status
      · have keyed := before.keyed
        simp [unused] at keyed

theorem Position.not_pendingCapacity : ∀ position : Position,
    .pendingCapacity ∉ position.vmStatuses := by
  decide

end Acceptance

section Idle

variable {state : Site} {vm : VirtualMachine}

/-- An idle VM that uses quota is running, stopped or left behind by a failed delete; it accepts
an operation unless it is the last. -/
theorem idle_vm_accepts (reachable : site.Reachable state)
    (stored : vm ∈ state.world.db.virtualMachines) (consumes : vm.ConsumesQuota)
    (idle : ∀ operation ∈ state.world.db.operationsOf vm.id, ¬operation.Active) :
    (vm.status = .running ∨ vm.status = .stopped ∨ vm.status = .deleting) ∧
    (vm.status ≠ .deleting → ∃ operationType, state.world.db.Accepts vm operationType) ∧
    (vm.status = .deleting →
      (∀ operationType, state.world.db.Refuses vm operationType) ∧
      ∃ earlier latest, state.world.db.operationsOf vm.id = earlier ++ [latest] ∧
        latest.operationType = .vmDelete ∧ latest.status = .failed) := by
  have invariant := (vmInvariant_of_reachable reachable).1 vm stored
  have statuses : vm.status = .running ∨ vm.status = .stopped ∨ vm.status = .deleting := by
    have notCreating : ¬(vm.status = .pending ∨ vm.status = .provisioning) := by
      rw [invariant.creating]
      rintro ⟨create, createMem, _, active⟩
      exact idle create createMem active
    have notCapacity : vm.status ≠ .pendingCapacity := by
      intro capacity
      rcases (site_sound_of_reachable reachable).world.db.coupled vm stored with
        ⟨position, _, _, _, coupled⟩
      exact position.not_pendingCapacity (capacity ▸ coupled.status)
    have counted : vm.status ∈ quotaConsumingStatuses := consumes
    simp only [quotaConsumingStatuses, List.mem_cons, List.not_mem_nil, or_false] at counted
    tauto
  have refuses : vm.status = .deleting → ∀ operationType,
      state.world.db.Refuses vm operationType := by
    intro deleting operationType
    apply refuses_of_not_allowed stored
    rw [deleting]
    cases operationType <;> simp [allowedStatuses]
  refine ⟨statuses, ?_, fun deleting => ⟨refuses deleting, ?_⟩⟩
  · intro notDeleting
    rcases statuses with isRunning | isStopped | isDeleting
    · exact ⟨.vmStop, accepts_of_allowed stored idle rfl (by simp [isRunning])⟩
    · exact ⟨.vmStart, accepts_of_allowed stored idle rfl (by simp [isStopped])⟩
    · exact absurd isDeleting notDeleting
  · rcases invariant.deleting deleting with ⟨earlier, latest, shape, kind, processing | failed⟩
    · exact absurd (.inr processing) (idle latest (by simp [shape]))
    · exact ⟨earlier, latest, shape, kind, failed⟩

end Idle

/-! ## A failed delete -/

set_option maxRecDepth 10000 in
/-- The running VM accepts a stop, or another operation. -/
theorem sampleRunningVm_accepts :
    ∃ operationType, (sampleSite sampleRunningVm).world.db.Accepts (sampleVm .running)
      operationType := by
  have stored : sampleVm .running ∈ (sampleSite sampleRunningVm).world.db.virtualMachines := by
    decide +kernel
  exact (idle_vm_accepts (sampleSite_reachable sampleRunningVm) stored (by decide)
    (by decide +kernel)).2.1 (by decide)

set_option maxRecDepth 10000 in
/-- The VM of the failed delete uses quota, is idle and accepts nothing. -/
theorem sampleFailedDelete_accepts_nothing :
    let db := (sampleSite sampleFailedDelete).world.db
    sampleVm .deleting ∈ db.virtualMachines ∧ (sampleVm .deleting).ConsumesQuota ∧
      (∀ operation ∈ db.operationsOf 31, ¬operation.Active) ∧
      ¬∃ operationType, db.Accepts (sampleVm .deleting) operationType := by
  intro db
  have stored : sampleVm .deleting ∈ db.virtualMachines := by decide +kernel
  refine ⟨stored, by decide, by decide +kernel, ?_⟩
  rintro ⟨operationType, accepts⟩
  have freshKey : "again" ∉ db.operations.map (·.idempotencyKey) := by decide +kernel
  rcases accepts ⟨0, 44, 12⟩ "again" (by decide +kernel) freshKey with ⟨next, operation, accepted⟩
  have refused : db.Refuses (sampleVm .deleting) operationType := by
    apply refuses_of_not_allowed stored
    cases operationType <;> simp [allowedStatuses, sampleVm]
  rcases refused ⟨0, 44, 12⟩ "again" freshKey with ⟨error, raised⟩
  rw [raised] at accepted
  cases accepted

end NpdPortal
