import Mathlib.Data.Set.Basic
import NpdPortal.Runs.Machines

/-!
# Recorded placements

The column `provider_vmid` is unique over all rows and is never cleared, so it
holds every VMID which a placement pass has recorded, also that of a VM which
is deleted, has failed or was not yet cloned.  A VMID which the provider hands
out again cannot be recorded a second time, and one that is no 32-bit integer
cannot be recorded at all.
-/

namespace NpdPortal

/-- The VMID the provider chose in an exchange. -/
def chosenVmid : Exchange → Option ℤ
  | ⟨.chooseCloneTarget _, .ok target⟩ => some target.vmid
  | _ => none

/-- The VMIDs which a step has recorded. -/
def Event.recordedVmids : Event → List ℤ
  | .selected _ exchanges (some _) => exchanges.filterMap chosenVmid
  | _ => []

/-- The VMIDs which the placement passes of a run have recorded, whatever became of them. -/
def recordedVmids (history : List Event) : List ℤ :=
  history.flatMap Event.recordedVmids

/-- The column `provider_vmid`. -/
def Database.providerVmids (db : Database) : List ℤ :=
  db.virtualMachines.filterMap (·.providerVmid)

/-- The selecting transaction of the operation commits whenever the provider answers with
this VMID, and the VM is stored with it.  The node is a setting of the adapter, without a NUL. -/
def PlacementCommits (world : World) (operation : Operation) (vmid : ℤ) : Prop :=
  ∀ (provider : Provider) (node : String) (stamp dbNow : Time), Sql.FitsText node →
    (∀ request, provider 0 (.chooseCloneTarget request) = .ok ⟨node, vmid⟩) →
    ∃ exchanges updated vm,
      (world.selectStep operation provider stamp dbNow).1 =
        .selected operation exchanges (some updated) ∧
      (world.selectStep operation provider stamp dbNow).2.db.virtualMachine?
        operation.virtualMachineId = some vm ∧
      vm.providerNode = some node ∧ vm.providerVmid = some vmid

section Recorded

variable {world next : World} {event : Event} {history : List Event} {db after : Database}

/-- No two VMs have one VMID. -/
theorem Database.eq_of_providerVmid {first second : VirtualMachine} {vmid : ℤ}
    (firstMem : first ∈ db.virtualMachines) (secondMem : second ∈ db.virtualMachines)
    (isFirst : first.providerVmid = some vmid) (isSecond : second.providerVmid = some vmid) :
    first = second :=
  (KeyedRows.nodup_filterMap_iff db.valid.vmIds).mp db.valid.providerVmids first firstMem second
    secondMem vmid isFirst isSecond

/-- A move that chooses no placement keeps the column. -/
theorem Moved.providerVmids_eq {evidence : Evidence} {operation updated : Operation}
    {vm : VirtualMachine} {position reached : Position} {change : VmChange}
    (moved : Moved db after evidence operation updated vm position reached change)
    (notPlaced : ∀ target, evidence ≠ .placed target) :
    after.providerVmids = db.providerVmids := by
  unfold Database.providerVmids
  rw [moved.virtualMachines]
  refine KeyedRows.filterMap_replace _ fun old oldMem same => ?_
  rcases KeyedRows.eq_of_key_eq db.valid.vmIds oldMem moved.vmMem
    (same.trans (change.apply_id vm)) with rfl
  cases change with
  | place target => exact absurd rfl (moved.advance.ne_place notPlaced target)
  | _ => rfl

/-- Only a placement pass gives evidence with an exchange that chooses a VMID. -/
theorem Evidence.GivenBy.recordedVmids {evidence : Evidence} {operation updated : Operation}
    {vm : VirtualMachine} (given : evidence.GivenBy operation updated vm event)
    (notPlaced : ∀ target, evidence ≠ .placed target) : event.recordedVmids = [] := by
  cases evidence with
  | placed target => exact absurd rfl (notPlaced target)
  | marked =>
      rcases given with ⟨_, rfl, rfl⟩
      rfl
  | reviewed =>
      rcases given with ⟨_, rfl, rfl⟩
      rfl
  | polled answer =>
      rcases given with ⟨_, rfl, _, _, _, _, rfl⟩
      rfl
  | read answer =>
      rcases given with ⟨_, rfl, _, _, _, rfl⟩
      rfl
  | outcome outcome =>
      rcases given with ⟨_, rfl, _⟩
      rfl

/-- A placement pass adds its VMID to the column. -/
theorem Moved.mem_providerVmids {target : ProviderPlacement} {operation updated : Operation}
    {vm : VirtualMachine} {position reached : Position} {change : VmChange}
    (moved : Moved db after (.placed target) operation updated vm position reached change)
    (unplaced : vm.providerVmid = none) (vmid : ℤ) :
    vmid ∈ after.providerVmids ↔ vmid ∈ db.providerVmids ∨ vmid = target.vmid := by
  have advance := moved.advance
  cases advance
  unfold Database.providerVmids
  simp only [List.mem_filterMap, moved.virtualMachines, KeyedRows.mem_replace]
  constructor
  · rintro ⟨row, ⟨rfl, _⟩ | ⟨rowMem, _⟩, stored⟩
    · exact .inr (Option.some.inj stored).symm
    · exact .inl ⟨row, rowMem, stored⟩
  · rintro (⟨row, rowMem, stored⟩ | rfl)
    · refine ⟨row, .inr ⟨rowMem, fun same => ?_⟩, stored⟩
      rcases KeyedRows.eq_of_key_eq db.valid.vmIds rowMem moved.vmMem same with rfl
      simp [unplaced] at stored
    · exact ⟨_, .inl ⟨rfl, vm, moved.vmMem, rfl⟩, rfl⟩

/-- A step adds the VMIDs it records to the column and removes none. -/
theorem Progress.mem_providerVmids (progress : Progress world event next) (vmid : ℤ) :
    vmid ∈ next.db.providerVmids ↔
      vmid ∈ world.db.providerVmids ∨ vmid ∈ event.recordedVmids := by
  have keeps : event.recordedVmids = [] → next.db.providerVmids = world.db.providerVmids →
      (vmid ∈ next.db.providerVmids ↔
        vmid ∈ world.db.providerVmids ∨ vmid ∈ event.recordedVmids) := by
    intro none same
    simp [none, same]
  cases progress with
  | created db context userId request idempotencyKey created =>
      exact keeps rfl (by simp [Database.providerVmids, created.tables, newVm])
  | enqueued db context userId vmId operationType idempotencyKey vm enqueued =>
      exact keeps rfl (by simp [Database.providerVmids, enqueued.tables])
  | administered db administers =>
      exact keeps rfl (by simp [Database.providerVmids, administers.vms])
  | marked db operation updated vm stage request target moved =>
      exact keeps rfl (moved.providerVmids_eq fun _ same => by cases same)
  | followed db operation updated vm position reached change evidence exchanges shows _ moved =>
      by_cases isPlaced : ∃ target, evidence = .placed target
      · rcases isPlaced with ⟨target, rfl⟩
        rcases shows with ⟨unplaced, request, rfl⟩
        rw [moved.mem_providerVmids unplaced]
        simp [Event.recordedVmids, chosenVmid]
      · have notPlaced := not_exists.mp isPlaced
        exact keeps ((shows.givenBy updated).recordedVmids notPlaced)
          (moved.providerVmids_eq notPlaced)
  | stored index dispatch outcome db operation updated vm position reached change _ _ moved =>
      exact keeps rfl (moved.providerVmids_eq fun _ same => by cases same)
  | _ => exact keeps rfl rfl

/-- The column holds exactly the recorded VMIDs. -/
theorem mem_providerVmids_iff (execution : portal.Execution history world) (vmid : ℤ) :
    vmid ∈ world.db.providerVmids ↔ vmid ∈ recordedVmids history := by
  revert vmid
  refine execution.invariant (motive := fun history world =>
    ∀ vmid, vmid ∈ world.db.providerVmids ↔ vmid ∈ recordedVmids history) ?_ ?_
  · rintro state rfl vmid
    exact Iff.rfl
  · intro earlier state event later before ih step vmid
    have progress := step_progress (sound_of_reachable before.reachable) step
    rw [progress.mem_providerVmids, ih vmid]
    simp [recordedVmids]

end Recorded

section Placing

variable {world : World} {operation : Operation} {vm : VirtualMachine}

/-- The first pass of a create whose VM has no placement. -/
structure AwaitsPlacement (world : World) (operation : Operation) (vm : VirtualMachine) :
    Prop where
  stored : operation ∈ world.db.operations
  created : operation.operationType = .vmCreate
  pending : operation.status = .pending
  atClone : operation.phase = some "clone"
  vmStored : world.db.virtualMachine? operation.virtualMachineId = some vm
  unplaced : vm.providerVmid = none

theorem AwaitsPlacement.matches (awaits : AwaitsPlacement world operation vm)
    (sound : world.Sound) : (Position.pending .clone).Matches operation := by
  rcases sound.db.ready awaits.stored with ⟨position, _, atPosition, _⟩
  have task := atPosition.task
  have status := atPosition.status
  rw [awaits.pending] at status
  refine ⟨awaits.created, awaits.pending, ?_, ?_⟩
  · simp [Position.phases, Stage.pendingPhase, awaits.atClone]
  · cases position <;> simp_all [Position.status, Position.hasTask]

theorem VmChange.place_fits_iff {vm : VirtualMachine} {target : ProviderPlacement} :
    ((VmChange.place target).apply vm).Fits ↔
      Sql.FitsInteger target.vmid ∧ Sql.FitsText target.node := by
  simp [VirtualMachine.fits_iff, VmChange.apply]

/-- Writing a placement commits exactly when no row has its VMID and the columns take it. -/
theorem Database.placement_flush_iff {db : Database} {target : ProviderPlacement} (dbNow : Time)
    (stored : operation ∈ db.operations) (vmMem : vm ∈ db.virtualMachines)
    (unplaced : vm.providerVmid = none) :
    (∃ next, db.flush dbNow operation ⟨operation, some ((VmChange.place target).apply vm)⟩ =
      some next) ↔
      target.vmid ∉ db.providerVmids ∧ Sql.FitsInteger target.vmid ∧ Sql.FitsText target.node := by
  have kept : ∀ written ∈ some ((VmChange.place target).apply vm), written.id = vm.id ∧
      written.sshPublicKeyId = vm.sshPublicKeyId := by
    rintro written ⟨⟩
    exact ⟨rfl, rfl⟩
  have isNew : ((db.writeVm (some ((VmChange.place target).apply vm))).filterMap
      (·.providerVmid)).Nodup ↔ target.vmid ∉ db.providerVmids :=
    KeyedRows.nodup_filterMap_replace_iff db.valid.vmIds db.valid.providerVmids vmMem rfl
      unplaced rfl
  rw [exists_flush_iff dbNow stored (.refl operation) vmMem kept, isNew]
  simp [db.valid.operationFits operation stored, VmChange.place_fits_iff]

/-- The pass commits exactly when no row has the VMID and the column takes it. -/
theorem AwaitsPlacement.commits_iff (awaits : AwaitsPlacement world operation vm)
    (sound : world.Sound) (vmid : ℤ) :
    PlacementCommits world operation vmid ↔
      vmid ∉ world.db.providerVmids ∧ Sql.FitsInteger vmid := by
  have atClone := awaits.matches sound
  rcases Database.virtualMachine?_eq_some_iff.mp awaits.vmStored with ⟨vmMem, vmId⟩
  rcases sound.db.ready awaits.stored with ⟨position, other, atPosition, _, _, prepared⟩
  rcases atPosition.unique atClone with rfl
  rcases prepared id with ⟨ready, _⟩
  rcases Option.some.inj (awaits.vmStored.symm.trans ready.vmStored) with rfl
  have noNode : vm.providerNode = none := by
    rcases ready.placement with ⟨target, _, vmidStored⟩ | ⟨_, noNode, _⟩
    · simp [awaits.unplaced] at vmidStored
    · exact noNode
  -- The pass asks once and hands the VM with the answer to the session.
  have computed : ∀ (provider : Provider) (node : String) (stamp : Time),
      (∀ request, provider 0 (.chooseCloneTarget request) = .ok ⟨node, vmid⟩) →
      ∃ exchanges, Program.run provider 0 (runSelected stamp world.db operation) =
        (exchanges, .ok (⟨operation, some ((VmChange.place ⟨node, vmid⟩).apply vm)⟩, none)) := by
    intro provider node stamp answers
    rcases runSelected_unplaced stamp awaits.vmStored noNode
      awaits.unplaced ready.hasKey atClone with ⟨request, _, selected⟩
    exact ⟨_, by rw [selected, Program.run_call, Program.run_done, answers]; rfl⟩
  have flushes := fun (node : String) (dbNow : Time) =>
    @Database.placement_flush_iff operation vm world.db ⟨node, vmid⟩ dbNow awaits.stored vmMem
      awaits.unplaced
  constructor
  · intro commits
    let provider : Provider := fun _ call =>
      match call with
      | .chooseCloneTarget _ => .ok ⟨"node", vmid⟩
      | _ => .error (.provider "unexpected call")
    rcases computed provider "node" 0 fun _ => rfl with ⟨exchanges, ran⟩
    rcases commits provider "node" 0 0 (by decide) fun _ => rfl with ⟨_, updated, _, committed, _⟩
    have flushed : ∃ next, world.db.flush 0 operation
        ⟨operation, some ((VmChange.place ⟨"node", vmid⟩).apply vm)⟩ = some next := by
      unfold World.selectStep at committed
      rw [ran] at committed
      cases flushed : world.db.flush 0 operation
          ⟨operation, some ((VmChange.place ⟨"node", vmid⟩).apply vm)⟩ with
      | none => simp [flushed] at committed
      | some db => exact ⟨db, rfl⟩
    rcases (flushes "node" 0).mp flushed with ⟨free, fits, _⟩
    exact ⟨free, fits⟩
  · rintro ⟨free, fits⟩ provider node stamp dbNow nodeFits answers
    rcases computed provider node stamp answers with ⟨exchanges, ran⟩
    rcases (flushes node dbNow).mpr ⟨free, fits, nodeFits⟩ with ⟨db, flushed⟩
    have tables := Database.commit_eq_some flushed
    have operationStored : db.operation? operation.id = some operation := by
      rw [Database.operation?_eq_some_iff, tables]
      have unwritten : operation.onUpdate operation dbNow = operation := if_pos rfl
      simp only [unwritten, KeyedRows.replace_eq_self world.db.valid.operationIds awaits.stored]
      exact ⟨awaits.stored, trivial⟩
    refine ⟨exchanges, operation, (VmChange.place ⟨node, vmid⟩).apply vm, ?_, ?_, rfl, rfl⟩
    · simp only [World.selectStep, ran, flushed, operationStored]
    · simp only [World.selectStep, ran, flushed]
      rw [Database.virtualMachine?_eq_some_iff, tables]
      refine ⟨?_, vmId⟩
      rw [Database.writeVm, KeyedRows.mem_replace]
      exact .inl ⟨rfl, vm, vmMem, rfl⟩

/-- Every free VMID the provider may answer can be recorded if and only if every VMID ever recorded
that it may answer is still in use, and it answers no free VMID that is no 32-bit integer. -/
theorem freeVmids_placeable_iff {history : List Event}
    (execution : portal.Execution history world) (awaits : AwaitsPlacement world operation vm)
    (answers used : Set ℤ) :
    (∀ vmid ∈ answers, 0 < vmid → vmid ∉ used → PlacementCommits world operation vmid) ↔
      (∀ vmid ∈ recordedVmids history, vmid ∈ answers → 0 < vmid → vmid ∈ used) ∧
      ∀ vmid ∈ answers, 0 < vmid → vmid ∉ used → vmid < 2 ^ 31 := by
  have sound := sound_of_reachable execution.reachable
  have commits : ∀ vmid, PlacementCommits world operation vmid ↔
      vmid ∉ recordedVmids history ∧ Sql.FitsInteger vmid := by
    intro vmid
    rw [awaits.commits_iff sound, mem_providerVmids_iff execution]
  constructor
  · intro placeable
    constructor
    · intro vmid recorded answered positive
      by_contra free
      exact ((commits vmid).mp (placeable vmid answered positive free)).1 recorded
    · intro vmid answered positive free
      exact ((commits vmid).mp (placeable vmid answered positive free)).2.2
  · rintro ⟨inUse, inRange⟩ vmid answered positive free
    have below := inRange vmid answered positive free
    refine (commits vmid).mpr ⟨fun recorded => free (inUse vmid recorded answered positive), ?_⟩
    exact ⟨by omega, below⟩

end Placing

/-- Before the first placement every free VMID of the range which the provider uses can be
recorded. -/
theorem sampleFirst_placeable :
    let world := (World.initial.perform
      [.administer sampleAdministration, .createVm ⟨31, 41, 0⟩ 1 sampleRequest "create"]).2
    ∀ vmid ∈ {vmid : ℤ | 100 ≤ vmid ∧ vmid ≤ 999999999}, 0 < vmid → vmid ∉ ({9000} : Set ℤ) →
      PlacementCommits world (newCreateOperation 41 31 "create" 0) vmid := by
  intro world
  have awaits : AwaitsPlacement world (newCreateOperation 41 31 "create" 0)
      (newVm 31 1 sampleRequest) :=
    ⟨by decide +kernel, rfl, rfl, rfl, by decide +kernel, rfl⟩
  refine (freeVmids_placeable_iff ⟨.initial, rfl, World.initial.perform_run _⟩ awaits
    {vmid | 100 ≤ vmid ∧ vmid ≤ 999999999} {9000}).mpr ⟨?_, ?_⟩
  · intro vmid recorded
    have none : recordedVmids (World.initial.perform
        [.administer sampleAdministration, .createVm ⟨31, 41, 0⟩ 1 sampleRequest "create"]).1 =
          [] := by decide +kernel
    exact absurd (none ▸ recorded) List.not_mem_nil
  · intro vmid inRange _ _
    exact inRange.2.trans_lt (by decide)

/-- The VM 31 is stopped and deleted; then the VM 32 is requested. -/
def sampleDeletedVm : List Action :=
  sampleRunningVm ++
  [.enqueue ⟨0, 42, 6⟩ 1 31 .vmStop "stop"] ++ sampleIteration 42 7 ++
  [.select 8 [] 42 (sampleProvider .running .succeeded) 8 8,
    .enqueue ⟨0, 43, 9⟩ 1 31 .vmDelete "delete"] ++ sampleIteration 43 10 ++
  [.select 11 [] 43 (sampleProvider .stopped .succeeded) 11 11,
    .createVm ⟨32, 44, 12⟩ 1 sampleRequest "again"]

set_option maxRecDepth 10000 in
/-- The VMID of the deleted VM is free and is handed out again, but it cannot be recorded. -/
theorem sampleDeletedVm_not_placeable :
    let world := (World.initial.perform sampleDeletedVm).2
    (world.db.virtualMachine? 31).map (·.status) = some .deleted ∧
    AwaitsPlacement world (newCreateOperation 44 32 "again" 12) (newVm 32 1 sampleRequest) ∧
    ¬∀ vmid, 0 < vmid → vmid ∉ ({9000} : Set ℤ) →
      PlacementCommits world (newCreateOperation 44 32 "again" 12) vmid := by
  intro world
  refine ⟨by decide +kernel, ⟨by decide +kernel, rfl, rfl, rfl, by decide +kernel, rfl⟩,
    fun placeable => ?_⟩
  rcases placeable 100 (by decide) (by simp)
    (sampleProvider .running .running) "node" 13 13 (by decide) fun _ => rfl with
    ⟨_, _, vm, _, stored, _, vmid⟩
  have unplaced : (world.selectStep (newCreateOperation 44 32 "again" 12)
      (sampleProvider .running .running) 13 13).2.db.virtualMachine? 32 =
        some (newVm 32 1 sampleRequest) := by decide +kernel
  rcases Option.some.inj (stored.symm.trans unplaced) with rfl
  cases vmid

end NpdPortal
