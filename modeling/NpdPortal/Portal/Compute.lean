import NpdPortal.Portal.Database

/-!
# Compute usage and quota

The functions of `compute/services.py` and the arithmetic of `get_quota` in
`compute/router.py`.
-/

namespace NpdPortal

/-- `QUOTA_CONSUMING_STATUSES`. -/
def quotaConsumingStatuses : List VmStatus :=
  [.pending, .pendingCapacity, .provisioning, .running, .stopped, .deleting]

/-- The VM counts against the quota of its owner. -/
def VirtualMachine.ConsumesQuota (vm : VirtualMachine) : Prop :=
  vm.status ∈ quotaConsumingStatuses

instance (vm : VirtualMachine) : Decidable vm.ConsumesQuota :=
  inferInstanceAs (Decidable (_ ∈ _))

structure ComputeUsage where
  usedVms : ℕ
  usedVcpus : ℕ
  usedMemoryMb : ℕ
  usedStorageGb : ℕ
  deriving DecidableEq, Repr

/-- The VMs which `get_user_compute_usage` aggregates. -/
def Database.consumingVms (db : Database) (userId : Uuid) : List VirtualMachine :=
  db.virtualMachines.filter fun vm => vm.ownerUserId = userId ∧ vm.ConsumesQuota

/-- `get_user_compute_usage`. -/
def getUserComputeUsage (db : Database) (userId : Uuid) : ComputeUsage where
  usedVms := (db.consumingVms userId).length
  usedVcpus := ((db.consumingVms userId).map (·.requestedVcpus)).sum
  usedMemoryMb := ((db.consumingVms userId).map (·.requestedMemoryMb)).sum
  usedStorageGb := ((db.consumingVms userId).map (·.requestedStorageGb)).sum

/-- The usage stays within the limits of the plan. -/
structure ComputeUsage.Within (usage : ComputeUsage) (plan : ComputePlan) : Prop where
  vms : usage.usedVms ≤ plan.maxVms
  vcpus : usage.usedVcpus ≤ plan.maxTotalVcpus
  memoryMb : usage.usedMemoryMb ≤ plan.maxTotalMemoryMb
  storageGb : usage.usedStorageGb ≤ plan.maxTotalStorageGb

/-- The `remaining` object of `get_quota`. -/
structure RemainingQuota where
  vms : ℤ
  vcpus : ℤ
  memoryMb : ℤ
  storageGb : ℤ
  sharedStorageGb : ℤ
  deriving DecidableEq, Repr

/-- The subtractions of `get_quota`. -/
def remainingQuota (plan : ComputePlan) (usage : ComputeUsage) : RemainingQuota where
  vms := plan.maxVms - usage.usedVms
  vcpus := plan.maxTotalVcpus - usage.usedVcpus
  memoryMb := plan.maxTotalMemoryMb - usage.usedMemoryMb
  storageGb := plan.maxTotalStorageGb - usage.usedStorageGb
  sharedStorageGb := plan.maxSharedStorageGb - 0

end NpdPortal
