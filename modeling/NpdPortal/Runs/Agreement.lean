import NpdPortal.Runs.LockedDeletes

/-!
# The rows agree with the provider

What the portal stores about its VMs is what there is at the provider, as long
as no deletion met a lock: no resource is left without a row, none has two, and
the resource of a VM that can be used is there.
-/

namespace NpdPortal

/-- The VM rows and the operation rows agree with the resources of the provider. -/
structure Deployment.Agrees (state : Deployment) : Prop where
  /-- Every resource that exists or was requested is that of one VM. -/
  recorded : ∀ vmid, ¬state.hosting.Free vmid →
    ∃ vm ∈ state.world.db.virtualMachines, vm.providerVmid = some vmid ∧
      ∀ other ∈ state.world.db.virtualMachines, other.providerVmid = some vmid → other = vm
  /-- The resource of a VM with such a status was requested, and its deletion was not. -/
  present : ∀ vm ∈ state.world.db.virtualMachines, vm.status.Live →
    ∃ vmid, vm.providerVmid = some vmid ∧ state.hosting.Holds vmid
  /-- The VMID of a VM whose clone was not requested is not used. -/
  absent : ∀ vm ∈ state.world.db.virtualMachines, vm.status = .pending →
    ∀ vmid ∈ vm.providerVmid, vmid ∉ state.world.busyVmids → state.hosting.Free vmid
  /-- No outcome is in doubt. -/
  undoubted : ∀ operation ∈ state.world.db.operations, ∃ position : Position,
    position.Matches operation ∧ ∀ stage, position ≠ .reconciling stage ∧
      position ≠ .review stage ∧ position ≠ .polling stage true

section Agreement

variable {adapter : HttpProxmoxAdapter} {state : Deployment}

/-- Only a VM that is to be placed has no placement. -/
theorem Database.Sound.placed_of_live {db : Database} (sound : db.Sound) {vm : VirtualMachine}
    (stored : vm ∈ db.virtualMachines) (live : vm.status.Live) :
    ∃ vmid, vm.providerVmid = some vmid := by
  rcases sound.coupled vm stored with ⟨position, earlier, latest, _, coupled⟩
  rcases coupled.placement with ⟨target, _, vmid⟩ | ⟨rfl, _⟩
  · exact ⟨target.vmid, vmid⟩
  · have pending : vm.status = .pending := by
      simpa [Position.vmStatuses, Stage.waitStatus] using coupled.status
    rw [pending] at live
    exact live.elim

/-- While the calls of the one worker return and no deletion meets a lock, the rows and the
provider agree. -/
theorem Deployment.agrees_of_execution {history : List DeploymentEvent}
    (execution : (deployment adapter).Execution history state)
    (unlocked : ∀ event ∈ history, ¬event.LockedDelete) : state.Agrees := by
  have undisturbed := undisturbed_of_execution execution unlocked
  refine ⟨?_, ?_, ?_, ?_⟩
  · intro vmid used
    rcases List.mem_filterMap.mp (undisturbed.known vmid used) with ⟨vm, stored, isVmid⟩
    exact ⟨vm, stored, isVmid, fun other otherMem same =>
      Database.eq_of_providerVmid otherMem stored same isVmid⟩
  · intro vm stored live
    rcases undisturbed.sound.db.placed_of_live stored live with ⟨vmid, isVmid⟩
    exact ⟨vmid, isVmid, (undisturbed.vms vm stored).present live vmid isVmid⟩
  · intro vm stored pending
    exact (undisturbed.vms vm stored).absent pending
  · intro operation stored
    rcases undisturbed.rows operation stored with ⟨position, atPosition, rests | underway⟩
    · refine ⟨position, atPosition, fun stage => ?_⟩
      cases rests <;> simp
    · rcases underway with ⟨current, rfl, _⟩
      exact ⟨_, atPosition, fun stage => by simp⟩

end Agreement

set_option maxRecDepth 10000 in
/-- When the sample VM runs, its resource is the one with the VMID 100. -/
theorem sampleHosted_agrees :
    let state := (Deployment.initial.perform sampleImageAdapter (sampleLockedDelete.take 20)).2
    ∃ vm ∈ state.world.db.virtualMachines, vm.status = .running ∧
      ∃ vmid, vm.providerVmid = some vmid ∧ state.hosting.Holds vmid := by
  intro state
  have notDeleted : ∀ event ∈
      (Deployment.initial.perform sampleImageAdapter (sampleLockedDelete.take 20)).1,
      event.deletes = false := by decide +kernel
  have agrees : state.Agrees := Deployment.agrees_of_execution
    (Deployment.perform_execution sampleImageAdapter (sampleLockedDelete.take 20))
    fun event eventMem => event.not_lockedDelete (notDeleted event eventMem)
  have stored : { newVm 31 1 sampleRequest with
      status := .running, providerNode := some "pve", providerVmid := some 100 } ∈
      state.world.db.virtualMachines := by decide +kernel
  exact ⟨_, stored, rfl, agrees.present _ stored trivial⟩

end NpdPortal
