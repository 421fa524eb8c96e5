import NpdPortal.Runs.Machines

/-!
# VMs and their operations

What `Coupled` says about a VM and its operations in the words of the stored
columns.
-/

namespace NpdPortal

/-- The stage an active operation is in. -/
def Position.stage? : Position → Option Stage
  | .pending stage | .dispatching stage | .reconciling stage | .polling stage _
  | .review stage => some stage
  | .succeeded _ | .failed _ => none

/-- The operation is active in this stage. -/
def Operation.InStage (operation : Operation) (stage : Stage) : Prop :=
  ∃ position : Position, position.Matches operation ∧ position.stage? = some stage

/-- How the row of a VM and its operations fit together. -/
structure Database.VmInvariant (db : Database) (vm : VirtualMachine) : Prop where
  oneActive : ∀ first ∈ db.operationsOf vm.id, ∀ second ∈ db.operationsOf vm.id,
    first.Active → second.Active → first = second
  oneCreate : ∃! create, create ∈ db.operationsOf vm.id ∧ create.operationType = .vmCreate
  placement : vm.providerNode = none ↔ vm.providerVmid = none
  creating : vm.status = .pending ∨ vm.status = .provisioning ↔
    ∃ create ∈ db.operationsOf vm.id, create.operationType = .vmCreate ∧ create.Active
  failed : vm.status = .failed → ∃ create, db.operationsOf vm.id = [create] ∧
    create.operationType = .vmCreate ∧ create.status = .failed
  settled : vm.status = .running ∨ vm.status = .stopped →
    (∃ create ∈ db.operationsOf vm.id, create.operationType = .vmCreate ∧
      create.status = .succeeded) ∧
    (vm.providerNode ≠ none ∧ vm.providerVmid ≠ none) ∧
    ∀ operation ∈ db.operationsOf vm.id, operation.Active →
      (vm.status = .stopped ∧ (operation.operationType = .vmStart ∨
        operation.operationType = .vmDelete ∧ operation.status = .pending ∨
        operation.InStage .rebootStart)) ∨
      (vm.status = .running ∧ (operation.operationType = .vmShutdown ∨
        operation.operationType = .vmStop ∨ operation.InStage .rebootShutdown))
  deleting : vm.status = .deleting → ∃ earlier latest,
    db.operationsOf vm.id = earlier ++ [latest] ∧ latest.operationType = .vmDelete ∧
      (latest.status = .processing ∨ latest.status = .failed)
  deleted : vm.status = .deleted → ∃ earlier latest,
    db.operationsOf vm.id = earlier ++ [latest] ∧ latest.operationType = .vmDelete ∧
      latest.status = .succeeded

namespace Position

theorem creating_iff : ∀ position : Position, ∀ status ∈ position.vmStatuses,
    (status = .pending ∨ status = .provisioning ↔
      ¬position.Terminal ∧ position.operationType = .vmCreate) := by
  decide

theorem of_failed : ∀ position : Position, .failed ∈ position.vmStatuses →
    position.Terminal ∧ position.operationType = .vmCreate ∧ position.status = .failed := by
  decide

theorem of_settled : ∀ position : Position, ∀ status ∈ position.vmStatuses,
    status = .running ∨ status = .stopped → ¬position.Terminal →
      (status = .stopped ∧ (position.operationType = .vmStart ∨
        position.operationType = .vmDelete ∧ position.status = .pending ∨
        position.stage? = some .rebootStart)) ∨
      (status = .running ∧ (position.operationType = .vmShutdown ∨
        position.operationType = .vmStop ∨ position.stage? = some .rebootShutdown)) := by
  decide

theorem of_deleting : ∀ position : Position, .deleting ∈ position.vmStatuses →
    position.operationType = .vmDelete ∧
      (position.status = .processing ∨ position.status = .failed) := by
  decide

theorem of_deleted : ∀ position : Position, .deleted ∈ position.vmStatuses →
    position = .succeeded .vmDelete := by
  decide

end Position

section Coupling

variable {db : Database} {vm : VirtualMachine} {position : Position} {earlier : List Operation}
  {latest : Operation}

/-- Only the latest operation of a VM can be active. -/
theorem Coupled.eq_latest (coupled : Coupled vm position earlier latest) {operation : Operation}
    (operationMem : operation ∈ earlier ++ [latest]) (active : operation.Active) :
    operation = latest := by
  rcases List.mem_append.mp operationMem with isEarlier | isLatest
  · rcases coupled.ended operation isEarlier with ⟨ending, atEnding, terminal⟩
    exact absurd terminal (atEnding.active_iff.mp active)
  · exact List.mem_singleton.mp isLatest

/-- The create of a VM. -/
theorem Coupled.exists_create (coupled : Coupled vm position earlier latest) :
    ∃ create ∈ earlier ++ [latest], create.operationType = .vmCreate ∧
      (∀ other ∈ earlier ++ [latest], other.operationType = .vmCreate → other = create) ∧
      (create = latest ∧ earlier = [] ∨
        create.status = .succeeded ∧ latest.operationType ≠ .vmCreate) := by
  rcases coupled.create with ⟨rfl, kind⟩ | ⟨create, later, rfl, kind, succeeded, others, latestKind⟩
  · refine ⟨latest, by simp, kind, ?_, .inl ⟨rfl, rfl⟩⟩
    intro other otherMem _
    simpa using otherMem
  · refine ⟨create, by simp, kind, ?_, .inr ⟨succeeded, latestKind⟩⟩
    intro other otherMem otherKind
    simp only [List.cons_append, List.mem_cons, List.mem_append, List.not_mem_nil,
      or_false] at otherMem
    rcases otherMem with rfl | isLater | rfl
    · rfl
    · exact absurd otherKind (others other isLater)
    · exact absurd otherKind latestKind

theorem Coupled.vmInvariant (coupled : Coupled vm position earlier latest)
    (shape : db.operationsOf vm.id = earlier ++ [latest]) : db.VmInvariant vm := by
  rcases coupled.exists_create with ⟨create, createMem, kind, unique, which⟩
  have active := coupled.atPosition.active_iff
  have latestKind := coupled.atPosition.operationType
  have latestStatus := coupled.atPosition.status
  -- the VM status of an operation other than the create needs the success of the create
  have created : position.operationType ≠ .vmCreate → create.status = .succeeded := by
    intro other
    rcases which with ⟨rfl, _⟩ | ⟨succeeded, _⟩
    · exact absurd (latestKind.symm.trans kind) other
    · exact succeeded
  constructor
  · rw [shape]
    intro first firstMem second secondMem firstActive secondActive
    exact (coupled.eq_latest firstMem firstActive).trans
      (coupled.eq_latest secondMem secondActive).symm
  · rw [shape]
    exact ⟨create, ⟨createMem, kind⟩, fun other ⟨otherMem, otherKind⟩ =>
      unique other otherMem otherKind⟩
  · rcases coupled.placement with ⟨target, node, vmid⟩ | ⟨_, node, vmid⟩ <;> simp [node, vmid]
  · rw [shape, position.creating_iff vm.status coupled.status]
    constructor
    · rintro ⟨running, isCreate⟩
      exact ⟨latest, by simp, latestKind.trans isCreate, active.mpr running⟩
    · rintro ⟨other, otherMem, otherKind, otherActive⟩
      have isLatest := coupled.eq_latest otherMem otherActive
      subst isLatest
      exact ⟨active.mp otherActive, latestKind.symm.trans otherKind⟩
  · intro isFailed
    have status := coupled.status
    rw [isFailed] at status
    rcases position.of_failed status with ⟨_, isCreate, ended⟩
    rcases which with ⟨rfl, rfl⟩ | ⟨_, notCreate⟩
    · exact ⟨create, by simpa using shape, kind, latestStatus.trans ended⟩
    · exact absurd (latestKind.trans isCreate) notCreate
  · intro isSettled
    refine ⟨⟨create, shape ▸ createMem, kind, ?_⟩, ?_, ?_⟩
    · by_cases isCreate : position.operationType = .vmCreate
      · have notCreating : ¬(vm.status = .pending ∨ vm.status = .provisioning) := by
          rcases isSettled with status | status <;> simp [status]
        rw [position.creating_iff vm.status coupled.status] at notCreating
        have terminal : position.Terminal := by
          by_contra running
          exact notCreating ⟨running, isCreate⟩
        rcases which with ⟨rfl, _⟩ | ⟨succeeded, _⟩
        · apply coupled.succeeded_of_terminal terminal kind
          rcases isSettled with status | status <;> simp [status]
        · exact succeeded
      · exact created isCreate
    · rcases coupled.placement with ⟨target, node, vmid⟩ | ⟨rfl, _⟩
      · simp [node, vmid]
      · have status := coupled.status
        rcases isSettled with settled | settled <;> simp [settled, Position.vmStatuses] at status
    · rw [shape]
      intro operation operationMem operationActive
      have isLatest := coupled.eq_latest operationMem operationActive
      subst isLatest
      have running := active.mp operationActive
      rw [latestKind, latestStatus]
      rcases position.of_settled vm.status coupled.status isSettled running with
        ⟨stopped, isStart | isDelete | inStage⟩ | ⟨isRunning, isShutdown | isStop | inStage⟩
      · exact .inl ⟨stopped, .inl isStart⟩
      · exact .inl ⟨stopped, .inr (.inl isDelete)⟩
      · exact .inl ⟨stopped, .inr (.inr ⟨position, coupled.atPosition, inStage⟩)⟩
      · exact .inr ⟨isRunning, .inl isShutdown⟩
      · exact .inr ⟨isRunning, .inr (.inl isStop)⟩
      · exact .inr ⟨isRunning, .inr (.inr ⟨position, coupled.atPosition, inStage⟩)⟩
  · intro isDeleting
    have status := coupled.status
    rw [isDeleting] at status
    rcases position.of_deleting status with ⟨isDelete, ended⟩
    exact ⟨earlier, latest, shape, latestKind.trans isDelete, by rwa [latestStatus]⟩
  · intro isDeleted
    have status := coupled.status
    rw [isDeleted] at status
    have isSucceeded := position.of_deleted status
    subst isSucceeded
    exact ⟨earlier, latest, shape, latestKind, latestStatus⟩

end Coupling

end NpdPortal
