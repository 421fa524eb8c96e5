import NpdPortal.Runs.Rows

/-!
# VM rows along runs

What a step, and then a whole run, can do to one row of `virtual_machines`.
The requested resources never change, a placement that is set is kept, and a
VM that no longer counts against the quota of its owner never counts again.
-/

namespace NpdPortal

/-- How a VM row of a later state compares with the earlier row. -/
structure VirtualMachine.Onward (vm later : VirtualMachine) : Prop where
  id : later.id = vm.id
  ownerUserId : later.ownerUserId = vm.ownerUserId
  requestedVcpus : later.requestedVcpus = vm.requestedVcpus
  requestedMemoryMb : later.requestedMemoryMb = vm.requestedMemoryMb
  requestedStorageGb : later.requestedStorageGb = vm.requestedStorageGb
  imageId : later.imageId = vm.imageId
  sshPublicKeyId : later.sshPublicKeyId = vm.sshPublicKeyId
  placement : vm.providerVmid ≠ none →
    later.providerNode = vm.providerNode ∧ later.providerVmid = vm.providerVmid
  released : ¬vm.ConsumesQuota → ¬later.ConsumesQuota

theorem VirtualMachine.Onward.refl (vm : VirtualMachine) : vm.Onward vm :=
  ⟨rfl, rfl, rfl, rfl, rfl, rfl, rfl, fun _ => ⟨rfl, rfl⟩, fun free => free⟩

theorem VirtualMachine.Onward.trans {first second third : VirtualMachine}
    (before : first.Onward second) (after : second.Onward third) : first.Onward third where
  id := after.id.trans before.id
  ownerUserId := after.ownerUserId.trans before.ownerUserId
  requestedVcpus := after.requestedVcpus.trans before.requestedVcpus
  requestedMemoryMb := after.requestedMemoryMb.trans before.requestedMemoryMb
  requestedStorageGb := after.requestedStorageGb.trans before.requestedStorageGb
  imageId := after.imageId.trans before.imageId
  sshPublicKeyId := after.sshPublicKeyId.trans before.sshPublicKeyId
  placement isPlaced := by
    rcases before.placement isPlaced with ⟨node, vmid⟩
    rcases after.placement (vmid ▸ isPlaced) with ⟨laterNode, laterVmid⟩
    exact ⟨laterNode.trans node, laterVmid.trans vmid⟩
  released free := after.released (before.released free)

/-- While an operation of a VM is under way the VM counts against the quota. -/
theorem Position.consumes_of_vmStatuses {position : Position} {status : VmStatus}
    (running : ¬position.Terminal) (goes : status ∈ position.vmStatuses) :
    status ∈ quotaConsumingStatuses := by
  cases position with
  | succeeded operationType => exact absurd trivial running
  | failed stage => exact absurd trivial running
  | _ => cases ‹Stage› <;>
      simp only [vmStatuses, Stage.waitStatus, List.mem_cons, List.not_mem_nil,
        or_false] at goes <;>
      first
      | (subst goes; decide)
      | (rcases goes with rfl | rfl <;> decide)

section Step

variable {world next : World} {event : Event}

theorem Moved.consumes {db after : Database} {evidence : Evidence}
    {operation updated : Operation} {vm : VirtualMachine} {position reached : Position}
    {change : VmChange}
    (moved : Moved db after evidence operation updated vm position reached change) :
    vm.ConsumesQuota :=
  Position.consumes_of_vmStatuses moved.advance.not_terminal moved.status

/-- The moved VM row comes after the row it replaces, if a placement is only given to a VM
without one. -/
theorem Moved.onward {db after : Database} {evidence : Evidence}
    {operation updated : Operation} {vm : VirtualMachine} {position reached : Position}
    {change : VmChange}
    (moved : Moved db after evidence operation updated vm position reached change)
    (unplaced : ∀ target, evidence = .placed target → vm.providerVmid = none) :
    vm.Onward (change.apply vm) := by
  have consumes := moved.consumes
  cases change with
  | keep => exact .refl vm
  | setStatus status =>
      exact ⟨rfl, rfl, rfl, rfl, rfl, rfl, rfl, fun _ => ⟨rfl, rfl⟩,
        fun free => absurd consumes free⟩
  | place target =>
      have isPlace : ∃ other, evidence = .placed other := by
        by_contra none
        exact moved.advance.ne_place (fun other same => none ⟨other, same⟩) target rfl
      rcases isPlace with ⟨other, rfl⟩
      exact ⟨rfl, rfl, rfl, rfl, rfl, rfl, rfl,
        fun isPlaced => absurd (unplaced other rfl) isPlaced, fun free => absurd consumes free⟩

/-- A step inserts VMs without a placement, moves one VM or leaves the VMs alone. -/
theorem Progress.virtualMachines (progress : Progress world event next) :
    (∃ evidence operation updated vm position reached change,
      Moved world.db next.db evidence operation updated vm position reached change ∧
        evidence.GivenBy operation updated vm event ∧ vm.Onward (change.apply vm)) ∨
    ∃ inserted, next.db.virtualMachines = world.db.virtualMachines ++ inserted ∧
      ∀ vm ∈ inserted, vm.status = .pending ∧ vm.providerNode = none ∧ vm.providerVmid = none := by
  cases progress with
  | created db context userId request idempotencyKey created =>
      refine .inr ⟨[newVm context.vmId userId request], by rw [created.tables],
        fun vm vmMem => ?_⟩
      rcases List.mem_singleton.mp vmMem with rfl
      exact ⟨rfl, rfl, rfl⟩
  | enqueued db context userId vmId operationType idempotencyKey vm enqueued =>
      exact .inr ⟨[], by simp [enqueued.tables], by simp⟩
  | administered db administers => exact .inr ⟨[], by simp [administers.vms], by simp⟩
  | marked db operation updated vm stage request target moved =>
      exact .inl ⟨_, _, _, _, _, _, _, moved, ⟨[], rfl, rfl⟩,
        moved.onward fun _ same => by cases same⟩
  | followed db operation updated vm position reached change evidence exchanges shows _ moved =>
      refine .inl ⟨_, _, _, _, _, _, _, moved, shows.givenBy updated, moved.onward ?_⟩
      rintro target rfl
      exact shows.1
  | stored index dispatch outcome db operation updated vm position reached change _ same moved =>
      exact .inl ⟨_, _, _, _, _, _, _, moved, ⟨dispatch, rfl, same.symm⟩,
        moved.onward fun _ same => by cases same⟩
  | _ => exact .inr ⟨[], by simp, by simp⟩

/-- A step keeps a VM row or moves it together with one of its operations. -/
theorem Progress.vm (progress : Progress world event next) {vm : VirtualMachine}
    (stored : vm ∈ world.db.virtualMachines) :
    vm ∈ next.db.virtualMachines ∨
      ∃ evidence operation updated position reached change,
        Moved world.db next.db evidence operation updated vm position reached change ∧
          evidence.GivenBy operation updated vm event ∧ vm.Onward (change.apply vm) ∧
          change.apply vm ∈ next.db.virtualMachines := by
  rcases progress.virtualMachines with ⟨evidence, operation, updated, other, position, reached,
    change, moved, given, onward⟩ | ⟨inserted, rows, _⟩
  · by_cases same : vm.id = other.id
    · rcases KeyedRows.eq_of_key_eq world.db.valid.vmIds stored moved.vmMem same with rfl
      refine .inr ⟨evidence, operation, updated, position, reached, change, moved, given, onward,
        ?_⟩
      rw [moved.virtualMachines, KeyedRows.mem_replace]
      exact .inl ⟨rfl, vm, stored, (change.apply_id vm).symm⟩
    · left
      rw [moved.virtualMachines, KeyedRows.mem_replace]
      exact .inr ⟨stored, by simpa using same⟩
  · left
    rw [rows]
    exact List.mem_append_left _ stored

/-- Every VM row is followed by one that comes after it. -/
theorem Progress.onward (progress : Progress world event next) {vm : VirtualMachine}
    (stored : vm ∈ world.db.virtualMachines) :
    ∃ later ∈ next.db.virtualMachines, vm.Onward later := by
  rcases progress.vm stored with kept | ⟨_, _, _, _, _, _, _, _, onward, laterMem⟩
  · exact ⟨vm, kept, .refl vm⟩
  · exact ⟨_, laterMem, onward⟩

/-- Along every run the VM rows only come onward. -/
theorem onward_of_run {later : World} {history : List Event} {vm : VirtualMachine}
    (reachable : portal.Reachable world) (run : portal.Run world history later)
    (stored : vm ∈ world.db.virtualMachines) :
    ∃ row ∈ later.db.virtualMachines, vm.Onward row := by
  refine run.relates (motive := fun first second =>
    ∀ vm ∈ first.db.virtualMachines, ∃ row ∈ second.db.virtualMachines, vm.Onward row)
    ?_ ?_ ?_ reachable vm stored
  · exact fun state vm vmMem => ⟨vm, vmMem, .refl vm⟩
  · intro first second third before after vm vmMem
    rcases before vm vmMem with ⟨middle, middleMem, toMiddle⟩
    rcases after middle middleMem with ⟨row, rowMem, toRow⟩
    exact ⟨row, rowMem, toMiddle.trans toRow⟩
  · intro state event next stateReachable step vm vmMem
    exact (step_progress (sound_of_reachable stateReachable) step).onward vmMem

end Step

end NpdPortal
