import NpdPortal.Library.Countdown
import NpdPortal.Runs.Batches
import NpdPortal.Runs.Itinerary

/-!
# A batch is completed in any order

A single worker with the fake adapter and a batch of new operations.  Each
operation takes a fixed number of calls of `run_once`, so the worker counts
them down; when nothing is left every row is the same in whatever order the
operations were selected.
-/

namespace NpdPortal

/-- The calls of `run_once` for an operation. -/
def OperationType.iterations : OperationType → ℕ
  | .vmCreate => 8
  | .vmReboot => 4
  | .vmStart | .vmShutdown | .vmStop | .vmDelete => 2

/-- The stages of an operation. -/
def OperationType.stageCount : OperationType → ℕ
  | .vmCreate => 4
  | .vmReboot => 2
  | .vmStart | .vmShutdown | .vmStop | .vmDelete => 1

/-- The operation has ended as it should. -/
structure Operation.CompletedIn (operation : Operation) (db : Database) : Prop where
  row : ∃ row, db.operation? operation.id = some row ∧ row.status = .succeeded ∧
    row.phase = some "complete" ∧ row.providerTaskId = none ∧ row.lastErrorCode = none ∧
    row.attempts = operation.operationType.stageCount
  vm : ∃ vm, db.virtualMachine? operation.virtualMachineId = some vm ∧
    vm.status = operation.operationType.doneStatus

/-- The rows without their times. -/
def Database.untimed (db : Database) : Tables :=
  { db.toTables with operations := db.operations.map Operation.untimed }

/-- The VM has the placement which the adapter gives it, and is not deleted. -/
def FakeProxmoxAdapter.Holds (fake : FakeProxmoxAdapter) (db : Database) (vmId : Uuid) : Prop :=
  ∃ vm, db.virtualMachine? vmId = some vm ∧ vm.providerNode = some fake.node ∧
    vm.providerVmid = some (vmidForVmId vmId) ∧ fake.deletedVmids (vmidForVmId vmId) = false

/-- The calls which the operation with this id takes. -/
def iterationsOf (added : List Operation) (id : Uuid) : ℕ :=
  ((KeyedRows.lookup Operation.id id added).map (·.operationType.iterations)).getD 0

/-- How far the worker has come with a batch. -/
structure Working (db : Database) (node : String) (added : List Operation) (worker : FakeWorker)
    (left : Uuid → ℕ) : Prop where
  same : db.SameBut worker.db (added.map (·.id)) (added.map (·.virtualMachineId))
  node : worker.fake.node = node
  others : ∀ id ∉ added.map (·.id), left id = 0
  underway : ∀ first ∈ added, ∃ firstVm row vm position,
    db.virtualMachine? first.virtualMachineId = some firstVm ∧
      Underway worker first firstVm row vm position ∧ position.Visited ∧
      callsLeft position vm = left first.id

section Working

variable {start db : Database} {fake : FakeProxmoxAdapter} {node : String} {added : List Operation}
  {worker other : FakeWorker} {left otherLeft : Uuid → ℕ} {now : Time}

theorem Batch.ids (batch : Batch start db added) : (added.map (·.id)).Nodup := by
  have distinct := db.valid.operationIds
  rw [batch.operations, List.map_append] at distinct
  exact (List.nodup_append.mp distinct).2.1

theorem Batch.stored (batch : Batch start db added) {first : Operation} (firstMem : first ∈ added) :
    db.operation? first.id = some first := by
  apply Database.operation?_eq_some_iff.mpr
  rw [batch.operations]
  exact ⟨List.mem_append_right _ firstMem, rfl⟩

/-- At the start every operation has all its calls to come. -/
theorem Batch.working (batch : Batch start db added)
    (held : ∀ operation ∈ added, operation.operationType ≠ .vmCreate →
      fake.Holds db operation.virtualMachineId) :
    Working db fake.node added ⟨db, fake⟩ (iterationsOf added) where
  same := .refl db _ _
  node := rfl
  others id absent := by
    have none : KeyedRows.lookup Operation.id id added = none :=
      KeyedRows.lookup_eq_none_iff.mpr absent
    simp [iterationsOf, none]
  underway first firstMem := by
    rcases batch.fresh first firstMem with ⟨atFirst, attempts, noError⟩
    have total : iterationsOf added first.id = first.operationType.iterations := by
      simp [iterationsOf, KeyedRows.lookup_of_mem batch.ids firstMem]
    have none : (Position.pending first.operationType.firstStage).commandsSent = 0 := by
      cases first.operationType <;> rfl
    rw [total]
    by_cases isCreate : first.operationType = .vmCreate
    · rcases batch.created first firstMem isCreate with ⟨vm, stored, noNode, noVmid, hasKey⟩
      refine ⟨vm, first, vm, .pending first.operationType.firstStage, stored, ?_, .pending _, ?_⟩
      · constructor
        · exact batch.stored firstMem
        · exact stored
        · exact .refl first
        · rfl
        · exact atFirst
        · exact attempts.trans none.symm
        · exact noError
        · rw [isCreate]
          exact .inl ⟨rfl, noNode, noVmid⟩
        · simp
        · rw [isCreate]
          simp [OperationType.firstStage]
        · exact fun _ => hasKey
        · simp
      · rw [callsLeft, if_pos noVmid, isCreate]
        rfl
    · rcases held first firstMem isCreate with ⟨vm, stored, atNode, vmid, present⟩
      refine ⟨vm, first, vm, .pending first.operationType.firstStage, stored, ?_, .pending _, ?_⟩
      · constructor
        · exact batch.stored firstMem
        · exact stored
        · exact .refl first
        · rfl
        · exact atFirst
        · exact attempts.trans none.symm
        · exact noError
        · exact .inr ⟨atNode, vmid⟩
        · simp
        · exact fun _ => present
        · exact fun created => absurd created isCreate
        · simp
      · rw [callsLeft, if_neg (by simp [vmid])]
        revert isCreate
        cases first.operationType <;> simp [OperationType.firstStage, Position.callsLeft,
          Stage.callsLeft, OperationType.iterations]

/-- A row which is selected is one of the batch. -/
theorem Working.exists_of_eligible (working : Working db node added worker left)
    (batch : Batch start db added)
    (idle : ∀ operation ∈ start.operations, ∀ now, ¬operation.Eligible now) {row : Operation}
    (stored : row ∈ worker.db.operations) (eligible : row.Eligible now) :
    ∃ first ∈ added, first.id = row.id := by
  by_contra absent
  have notAmong : row.id ∉ added.map (·.id) := by simpa using absent
  have unchanged := working.same.otherOperations row.id notAmong
  rw [Database.operation?_eq_some_iff.mpr ⟨stored, rfl⟩] at unchanged
  rcases Database.operation?_eq_some_iff.mp unchanged.symm with ⟨before, _⟩
  rw [batch.operations] at before
  rcases List.mem_append.mp before with isOld | isNew
  · exact idle row isOld now eligible
  · exact absent ⟨row, isNew, rfl⟩

/-- How far the worker has come with a selected row. -/
theorem Working.exists_underway (working : Working db node added worker left)
    (batch : Batch start db added)
    (idle : ∀ operation ∈ start.operations, ∀ now, ¬operation.Eligible now) {row : Operation}
    (stored : row ∈ worker.db.operations) (eligible : row.Eligible now) :
    ∃ first ∈ added, first.id = row.id ∧ ∃ firstVm vm position,
      db.virtualMachine? first.virtualMachineId = some firstVm ∧
        Underway worker first firstVm row vm position ∧ position.Visited ∧
        callsLeft position vm = left first.id := by
  rcases working.exists_of_eligible batch idle stored eligible with ⟨first, firstMem, sameId⟩
  rcases working.underway first firstMem with
    ⟨firstVm, current, vm, position, vmStored, underway, visited, remaining⟩
  have isRow : current = row := by
    apply Option.some.inj
    rw [← underway.stored, sameId]
    exact Database.operation?_eq_some_iff.mpr ⟨stored, rfl⟩
  subst isRow
  exact ⟨first, firstMem, sameId, firstVm, vm, position, vmStored, underway, visited, remaining⟩

/-- Every call takes one from the calls left for the selected operation. -/
theorem Working.follows (working : Working db node added worker left)
    (batch : Batch start db added)
    (idle : ∀ operation ∈ start.operations, ∀ now, ¬operation.Eligible now)
    (distinct : (added.map fun operation =>
      FakeProxmoxAdapter.vmidForVmId operation.virtualMachineId).Nodup)
    {initial : FakeWorker} {counts : Uuid → ℕ} {row : Operation}
    (step : (fakeWorker initial).step worker row other) :
    ∃ after, (LabelledSystem.countdown Uuid counts).step left row.id after ∧
      Working db node added other after := by
  rcases step with ⟨stored, clock, eligible, ran⟩
  rcases working.exists_underway batch idle stored eligible with
    ⟨first, firstMem, sameId, firstVm, vm, position, vmStored, underway, visited, remaining⟩
  rcases underway.takesTo visited eligible ran with ⟨rest, had, takes⟩
  refine ⟨Function.update left first.id rest, ⟨rest, ?_, ?_⟩, ?_⟩
  · rw [← sameId, ← remaining, had]
  · rw [sameId]
  · constructor
    · apply working.same.trans (takes.same.mono _ _)
      · simpa using ⟨first, firstMem, rfl⟩
      · simpa using ⟨first, firstMem, rfl⟩
    · exact takes.follows.node.trans working.node
    · intro id absent
      rw [Function.update_of_ne]
      · exact working.others id absent
      · rintro rfl
        exact absent (List.mem_map_of_mem firstMem)
    · intro second secondMem
      by_cases same : second = first
      · subst same
        rcases takes.underway with ⟨row, vm, position, after, visited, remaining⟩
        refine ⟨firstVm, row, vm, position, vmStored, after, visited, ?_⟩
        rw [Function.update_self]
        exact remaining
      · have differ : ∀ {Column : Type} {column : Operation → Column},
            (added.map column).Nodup → column second ≠ column first :=
          fun columns equal => same (List.inj_on_of_nodup_map columns secondMem firstMem equal)
        rcases working.underway second secondMem with
          ⟨secondVm, row, vm, position, vmStored, underway, visited, remaining⟩
        refine ⟨secondVm, row, vm, position, vmStored,
          underway.frame takes (differ batch.ids) (differ batch.ownVm) (differ distinct), visited,
          ?_⟩
        rw [Function.update_of_ne (differ batch.ids)]
        exact remaining

/-- The query finds an operation as long as calls are left. -/
theorem Working.finds_iff (working : Working db node added worker left)
    (batch : Batch start db added)
    (idle : ∀ operation ∈ start.operations, ∀ now, ¬operation.Eligible now) (now : Time) :
    worker.Finds now ↔ ∃ first ∈ added, 0 < left first.id := by
  constructor
  · rintro ⟨row, stored, eligible⟩
    rcases working.exists_underway batch idle stored eligible with
      ⟨first, firstMem, _, _, vm, position, _, underway, visited, remaining⟩
    refine ⟨first, firstMem, ?_⟩
    rw [← remaining]
    exact (underway.eligible_iff visited now).mp eligible
  · rintro ⟨first, firstMem, some⟩
    rcases working.underway first firstMem with
      ⟨_, row, vm, position, _, underway, visited, remaining⟩
    refine ⟨row, underway.rowStored, (underway.eligible_iff visited now).mpr ?_⟩
    rw [remaining]
    exact some

/-- Without calls left an operation has succeeded and its VM is placed. -/
theorem Working.ended (working : Working db node added worker left) {first : Operation}
    (firstMem : first ∈ added) (none : left first.id = 0) :
    ∃ firstVm row vm, db.virtualMachine? first.virtualMachineId = some firstVm ∧
      Underway worker first firstVm row vm (.succeeded first.operationType) ∧
      vm.providerNode = some node ∧
      vm.providerVmid = some (FakeProxmoxAdapter.vmidForVmId first.virtualMachineId) := by
  rcases working.underway first firstMem with
    ⟨firstVm, row, vm, position, vmStored, underway, visited, remaining⟩
  have notLeft : ¬0 < callsLeft position vm := by rw [remaining, none]; exact Nat.lt_irrefl 0
  rw [← underway.eligible_iff visited 0, underway.atPosition.eligible_iff_due] at notLeft
  cases visited with
  | pending stage => exact absurd trivial notLeft
  | polling stage hasTask => exact absurd trivial notLeft
  | succeeded operationType =>
      have kind : first.operationType = operationType :=
        underway.identity.operationType.symm.trans underway.atPosition.operationType
      subst kind
      rcases underway.placement with ⟨⟨⟩, _⟩ | ⟨atNode, vmid⟩
      exact ⟨firstVm, row, vm, vmStored, underway, working.node ▸ atNode, vmid⟩

theorem Working.completed (working : Working db node added worker left) {first : Operation}
    (firstMem : first ∈ added) (none : left first.id = 0) : first.CompletedIn worker.db := by
  rcases working.ended firstMem none with ⟨firstVm, row, vm, _, underway, _, _⟩
  have phase : row.phase = some "complete" := by
    simpa [Position.phases] using underway.atPosition.phase
  have attempts : row.attempts = first.operationType.stageCount := by
    rw [underway.attempts]
    cases first.operationType <;> rfl
  exact ⟨⟨row, underway.stored, underway.atPosition.status, phase,
    underway.atPosition.providerTaskId_eq_none rfl, underway.noError, attempts⟩,
    ⟨vm, underway.vmStored, underway.ended _ rfl⟩⟩

/-- What an operation has left when it has succeeded is determined by how it began. -/
theorem Underway.rows_eq {first row otherRow : Operation} {firstVm vm otherVm : VirtualMachine}
    {operationType : OperationType}
    (underway : Underway worker first firstVm row vm (.succeeded operationType))
    (otherUnderway : Underway other first firstVm otherRow otherVm (.succeeded operationType))
    (node : vm.providerNode = otherVm.providerNode)
    (vmid : vm.providerVmid = otherVm.providerVmid) :
    row.untimed = otherRow.untimed ∧ vm = otherVm := by
  have phases : ∀ {row : Operation}, (Position.succeeded operationType).Matches row →
      row.phase = some "complete" := by
    intro row atEnd
    simpa [Position.phases] using atEnd.phase
  constructor
  · have identity := underway.identity
    have otherIdentity := otherUnderway.identity
    simp only [Operation.untimed, Operation.mk.injEq]
    refine ⟨identity.id.trans otherIdentity.id.symm,
      identity.virtualMachineId.trans otherIdentity.virtualMachineId.symm,
      identity.operationType.trans otherIdentity.operationType.symm,
      underway.atPosition.status.trans otherUnderway.atPosition.status.symm,
      (phases underway.atPosition).trans (phases otherUnderway.atPosition).symm,
      identity.idempotencyKey.trans otherIdentity.idempotencyKey.symm,
      underway.attempts.trans otherUnderway.attempts.symm,
      underway.noError.trans otherUnderway.noError.symm, ?_, trivial⟩
    rw [underway.atPosition.providerTaskId_eq_none rfl,
      otherUnderway.atPosition.providerTaskId_eq_none rfl]
  · have requested := underway.requested.trans otherUnderway.requested.symm
    have status := (underway.ended _ rfl).trans (otherUnderway.ended _ rfl).symm
    cases vm
    cases otherVm
    simp only [VirtualMachine.requested, VirtualMachine.mk.injEq] at requested status node vmid ⊢
    simp [requested, status, node, vmid]

/-- Two workers without calls left agree on the rows of an operation. -/
theorem Working.ended_eq (working : Working db node added worker left)
    (otherWorking : Working db node added other otherLeft) {first : Operation}
    (firstMem : first ∈ added) (none : left first.id = 0) (otherNone : otherLeft first.id = 0) :
    (worker.db.operation? first.id).map Operation.untimed =
        (other.db.operation? first.id).map Operation.untimed ∧
      worker.db.virtualMachine? first.virtualMachineId =
        other.db.virtualMachine? first.virtualMachineId := by
  rcases working.ended firstMem none with ⟨firstVm, row, vm, vmStored, underway, node, vmid⟩
  rcases otherWorking.ended firstMem otherNone with
    ⟨otherFirstVm, otherRow, otherVm, otherVmStored, otherUnderway, otherNode, otherVmid⟩
  rcases Option.some.inj (vmStored.symm.trans otherVmStored) with rfl
  rcases underway.rows_eq otherUnderway (node.trans otherNode.symm) (vmid.trans otherVmid.symm) with
    ⟨rows, vms⟩
  rw [underway.stored, otherUnderway.stored, underway.vmStored, otherUnderway.vmStored, vms,
    Option.map_some, Option.map_some, rows]
  exact ⟨rfl, rfl⟩

/-- Without calls left the rows do not depend on the order of the calls. -/
theorem Working.untimed_eq (working : Working db node added worker left)
    (otherWorking : Working db node added other otherLeft)
    (none : ∀ first ∈ added, left first.id = 0)
    (otherNone : ∀ first ∈ added, otherLeft first.id = 0) :
    worker.db.untimed = other.db.untimed := by
  have same := working.same
  have otherSame := otherWorking.same
  have operations : worker.db.operations.map Operation.untimed =
      other.db.operations.map Operation.untimed := by
    apply KeyedRows.map_eq_of_keys (same.operationIds.trans otherSame.operationIds.symm)
      worker.db.valid.operationIds
    intro one oneMem two twoMem sameId
    have agree : (worker.db.operation? one.id).map Operation.untimed =
        (other.db.operation? one.id).map Operation.untimed := by
      by_cases among : one.id ∈ added.map (·.id)
      · rcases List.mem_map.mp among with ⟨first, firstMem, isOne⟩
        rw [← isOne]
        exact (working.ended_eq otherWorking firstMem (none first firstMem)
          (otherNone first firstMem)).1
      · rw [same.otherOperations _ among, otherSame.otherOperations _ among]
    rw [Database.operation?_eq_some_iff.mpr ⟨oneMem, rfl⟩,
      Database.operation?_eq_some_iff.mpr ⟨twoMem, sameId.symm⟩] at agree
    exact Option.some.inj agree
  have vms : worker.db.virtualMachines.map id = other.db.virtualMachines.map id := by
    apply KeyedRows.map_eq_of_keys (same.vmIds.trans otherSame.vmIds.symm) worker.db.valid.vmIds
    intro one oneMem two twoMem sameId
    have agree : worker.db.virtualMachine? one.id = other.db.virtualMachine? one.id := by
      by_cases among : one.id ∈ added.map (·.virtualMachineId)
      · rcases List.mem_map.mp among with ⟨first, firstMem, isOne⟩
        rw [← isOne]
        exact (working.ended_eq otherWorking firstMem (none first firstMem)
          (otherNone first firstMem)).2
      · rw [same.otherVms _ among, otherSame.otherVms _ among]
    rw [Database.virtualMachine?_eq_some_iff.mpr ⟨oneMem, rfl⟩,
      Database.virtualMachine?_eq_some_iff.mpr ⟨twoMem, sameId.symm⟩] at agree
    exact Option.some.inj agree
  rw [List.map_id, List.map_id] at vms
  simp only [Database.untimed, operations, vms, same.sshPublicKeys, otherSame.sshPublicKeys,
    same.userQuotas, otherSame.userQuotas, same.computePlans, otherSame.computePlans]

/-- A selected operation is processed unless a VMID which is to be given out is in use. -/
theorem Working.exists_next (working : Working db node added worker left)
    (batch : Batch start db added)
    (idle : ∀ operation ∈ start.operations, ∀ now, ¬operation.Eligible now)
    (distinct : (added.map fun operation =>
      FakeProxmoxAdapter.vmidForVmId operation.virtualMachineId).Nodup)
    (free : ∀ operation ∈ added, operation.operationType = .vmCreate →
      FakeProxmoxAdapter.vmidForVmId operation.virtualMachineId ∉ db.providerVmids)
    {row : Operation} {clock : Clock} (stored : row ∈ worker.db.operations)
    (eligible : row.Eligible clock.now) : ∃ next, worker.runOnce row clock = .ok next := by
  rcases working.exists_underway batch idle stored eligible with
    ⟨first, firstMem, _, _, vm, position, _, underway, visited, _⟩
  apply underway.exists_next visited eligible
  intro noVmid inUse
  have isCreate : first.operationType = .vmCreate := by
    rcases underway.placement with ⟨rfl, _⟩ | ⟨_, vmid⟩
    · exact underway.identity.operationType.symm.trans underway.atPosition.operationType
    · simp [noVmid] at vmid
  rcases List.mem_filterMap.mp inUse with ⟨holder, holderMem, holds⟩
  have holderStored := Database.virtualMachine?_eq_some_iff.mpr ⟨holderMem, rfl⟩
  by_cases among : holder.id ∈ added.map (·.virtualMachineId)
  · rcases List.mem_map.mp among with ⟨second, secondMem, isHolder⟩
    rcases working.underway second secondMem with ⟨_, _, secondVm, _, _, secondUnderway, _, _⟩
    rw [← isHolder, secondUnderway.vmStored] at holderStored
    rcases Option.some.inj holderStored with rfl
    rcases secondUnderway.placement with ⟨_, _, none⟩ | ⟨_, vmid⟩
    · simp [none] at holds
    · have sameVmid := Option.some.inj (vmid.symm.trans holds)
      rcases List.inj_on_of_nodup_map distinct secondMem firstMem sameVmid with rfl
      rcases Option.some.inj (underway.vmStored.symm.trans secondUnderway.vmStored) with rfl
      simp [noVmid] at holds
  · rw [working.same.otherVms _ among] at holderStored
    apply free first firstMem isCreate
    exact List.mem_filterMap.mpr
      ⟨holder, (Database.virtualMachine?_eq_some_iff.mp holderStored).1, holds⟩

end Working

section Completion

variable {start db : Database} {requests : List EnqueueRequest} {fake : FakeProxmoxAdapter}
  {added : List Operation}

/-- The calls of `run_once` for all operations of a batch. -/
def totalIterations (added : List Operation) : ℕ :=
  (added.map (·.operationType.iterations)).sum

/-- What is left and what was done after some calls. -/
theorem Batch.exists_working (batch : Batch start db added)
    (idle : ∀ operation ∈ start.operations, ∀ now, ¬operation.Eligible now)
    (held : ∀ operation ∈ added, operation.operationType ≠ .vmCreate →
      fake.Holds db operation.virtualMachineId)
    (distinct : (added.map fun operation =>
      FakeProxmoxAdapter.vmidForVmId operation.virtualMachineId).Nodup)
    {history : List Operation} {worker : FakeWorker}
    (execution : (fakeWorker ⟨db, fake⟩).Execution history worker) :
    ∃ left, Working db fake.node added worker left ∧
      (∀ first ∈ added, left first.id + (history.map (·.id)).count first.id =
        first.operationType.iterations) ∧
      ((added.map (·.id)).map left).sum + history.length = totalIterations added := by
  rcases execution with ⟨_, rfl, run⟩
  have follows : ∀ {state : FakeWorker} {row : Operation} {next : FakeWorker} {left : Uuid → ℕ},
      Working db fake.node added state left → (fakeWorker ⟨db, fake⟩).step state row next →
      ∃ after, (LabelledSystem.countdown Uuid (iterationsOf added)).step left row.id after ∧
        Working db fake.node added next after :=
    fun working step => working.follows batch idle distinct step
  rcases run.exists_countdown follows (batch.working held) with ⟨left, counts, working⟩
  have own : ∀ first ∈ added, iterationsOf added first.id = first.operationType.iterations := by
    intro first firstMem
    simp [iterationsOf, KeyedRows.lookup_of_mem batch.ids firstMem]
  have among : ∀ id, 0 < iterationsOf added id → id ∈ added.map (·.id) := by
    intro id some
    by_contra absent
    have none : KeyedRows.lookup Operation.id id added = none :=
      KeyedRows.lookup_eq_none_iff.mpr absent
    simp [iterationsOf, none] at some
  have total : ((added.map (·.id)).map (iterationsOf added)).sum = totalIterations added := by
    rw [List.map_map]
    exact congrArg List.sum (List.map_congr_left own)
  refine ⟨left, working, ?_, ?_⟩
  · intro first firstMem
    rw [counts.count_countdown, own first firstMem]
  · have length := counts.length_countdown batch.ids among
    rwa [List.length_map, total] at length

/-- A single worker with the fake adapter completes what was enqueued, whichever eligible
operation it selects: the calls of `run_once` are counted, the operations and their VMs end as
they should, and the rows do not depend on the order. -/
theorem fakeWorker_completes (accepted : start.acceptAll requests = .ok db)
    (idle : ∀ operation ∈ start.operations, ∀ now, ¬operation.Eligible now)
    (held : ∀ operation ∈ start.added db, operation.operationType ≠ .vmCreate →
      fake.Holds db operation.virtualMachineId)
    (distinct : ((start.added db).map fun operation =>
      FakeProxmoxAdapter.vmidForVmId operation.virtualMachineId).Nodup) :
    (∀ history worker, (fakeWorker ⟨db, fake⟩).Execution history worker →
      history.length ≤ totalIterations (start.added db) ∧
      (∀ now, worker.Finds now ↔ history.length < totalIterations (start.added db)) ∧
      (history.length = totalIterations (start.added db) →
        (∀ operation ∈ start.added db, operation.CompletedIn worker.db ∧
          (history.map (·.id)).count operation.id = operation.operationType.iterations) ∧
        ∀ otherHistory other, (fakeWorker ⟨db, fake⟩).Execution otherHistory other →
          otherHistory.length = totalIterations (start.added db) →
          worker.db.untimed = other.db.untimed)) ∧
    -- The only error would be the collision of a VMID with one that is stored.
    ((∀ operation ∈ start.added db, operation.operationType = .vmCreate →
        FakeProxmoxAdapter.vmidForVmId operation.virtualMachineId ∉ db.providerVmids) →
      ∀ history worker, (fakeWorker ⟨db, fake⟩).Execution history worker →
        ∀ operation ∈ worker.db.operations, ∀ clock : Clock, operation.Eligible clock.now →
          ∃ next, worker.runOnce operation clock = .ok next) := by
  have batch := batch_of_acceptAll accepted
  have some : ∀ left : Uuid → ℕ, 0 < (((start.added db).map (·.id)).map left).sum ↔
      ∃ first ∈ start.added db, 0 < left first.id := by
    intro left
    rw [List.sum_pos_iff_exists_pos_nat]
    simp
  have none : ∀ left : Uuid → ℕ, (((start.added db).map (·.id)).map left).sum = 0 →
      ∀ first ∈ start.added db, left first.id = 0 := by
    intro left empty first firstMem
    exact List.sum_eq_zero_iff_forall_eq_nat.mp empty _
      (List.mem_map_of_mem (List.mem_map_of_mem firstMem))
  constructor
  · intro history worker execution
    rcases batch.exists_working idle held distinct execution with ⟨left, working, counts, sum⟩
    refine ⟨by omega, ?_, ?_⟩
    · intro now
      rw [working.finds_iff batch idle now, ← some left]
      omega
    · intro all
      have ended := none left (by omega)
      constructor
      · intro first firstMem
        have counted := counts first firstMem
        rw [ended first firstMem, Nat.zero_add] at counted
        exact ⟨working.completed firstMem (ended first firstMem), counted⟩
      · intro otherHistory other otherExecution otherAll
        rcases batch.exists_working idle held distinct otherExecution with
          ⟨otherLeft, otherWorking, _, otherSum⟩
        exact working.untimed_eq otherWorking ended (none otherLeft (by omega))
  · intro free history worker execution operation stored clock eligible
    rcases batch.exists_working idle held distinct execution with ⟨left, working, _, _⟩
    exact working.exists_next batch idle distinct free stored eligible

/-- The VM 31 is running on the node of the fake adapter. -/
def sampleHosted : Database where
  virtualMachines := [{ newVm 31 1 sampleRequest with
    status := .running, providerNode := some "fake-node", providerVmid := some 100031 }]
  operations := [{ newCreateOperation 41 31 "create" 0 with
    status := .succeeded, phase := some "complete", attempts := 4 }]
  sshPublicKeys := sampleAdministration.sshPublicKeys
  userQuotas := sampleAdministration.userQuotas
  computePlans := sampleAdministration.computePlans
  valid := by decide

/-- A second VM is requested and the first one is to be stopped. -/
def sampleBatch : List EnqueueRequest :=
  [.create ⟨32, 42, 6⟩ 1 sampleRequest "again", .enqueue ⟨0, 43, 7⟩ 1 31 .vmStop "stop"]

def sampleEnqueued : Database :=
  (sampleHosted.acceptAll sampleBatch).toOption.getD sampleHosted

/-- Ten calls complete both operations, in any order. -/
theorem sampleEnqueued_completes :
    sampleHosted.acceptAll sampleBatch = .ok sampleEnqueued ∧
    ∀ history worker, (fakeWorker ⟨sampleEnqueued, {}⟩).Execution history worker →
      (∀ now, worker.Finds now ↔ history.length < 10) ∧
      (history.length = 10 →
        ∀ operation ∈ sampleHosted.added sampleEnqueued, operation.CompletedIn worker.db) ∧
      ∀ operation ∈ worker.db.operations, ∀ clock : Clock, operation.Eligible clock.now →
        ∃ next, worker.runOnce operation clock = .ok next := by
  have accepted : sampleHosted.acceptAll sampleBatch = .ok sampleEnqueued := by rfl
  have isAdded : sampleHosted.added sampleEnqueued = [newCreateOperation 42 32 "again" 6,
      newLifecycleOperation 43 31 .vmStop "stop" 7] := by decide +kernel
  have total : totalIterations (sampleHosted.added sampleEnqueued) = 10 := by
    rw [isAdded]
    rfl
  have idle : ∀ operation ∈ sampleHosted.operations, ∀ now, ¬operation.Eligible now := by
    intro operation operationMem now
    rcases List.mem_singleton.mp operationMem with rfl
    have atEnd : (Position.succeeded .vmCreate).Matches
        { newCreateOperation 41 31 "create" 0 with
          status := .succeeded, phase := some "complete", attempts := 4 } :=
      ⟨rfl, rfl, by simp [Position.phases], rfl⟩
    rw [atEnd.eligible_iff_due]
    exact id
  have held : ∀ operation ∈ sampleHosted.added sampleEnqueued,
      operation.operationType ≠ .vmCreate →
        FakeProxmoxAdapter.Holds {} sampleEnqueued operation.virtualMachineId := by
    rw [isAdded]
    intro operation operationMem notCreate
    rcases List.mem_cons.mp operationMem with rfl | operationMem
    · exact absurd rfl notCreate
    · rcases List.mem_singleton.mp operationMem with rfl
      exact ⟨{ newVm 31 1 sampleRequest with
        status := .running, providerNode := some "fake-node", providerVmid := some 100031 },
        by decide +kernel, rfl, by decide, rfl⟩
  have distinct : ((sampleHosted.added sampleEnqueued).map fun operation =>
      FakeProxmoxAdapter.vmidForVmId operation.virtualMachineId).Nodup := by
    rw [isAdded]
    decide
  have free : ∀ operation ∈ sampleHosted.added sampleEnqueued,
      operation.operationType = .vmCreate →
        FakeProxmoxAdapter.vmidForVmId operation.virtualMachineId ∉
          sampleEnqueued.providerVmids := by
    rw [isAdded]
    decide +kernel
  rcases fakeWorker_completes accepted idle held distinct with ⟨completes, served⟩
  refine ⟨accepted, ?_⟩
  intro history worker execution
  rcases completes history worker execution with ⟨_, finds, ended⟩
  rw [total] at finds ended
  exact ⟨finds, fun all operation operationMem => ((ended all).1 operation operationMem).1,
    served free history worker execution⟩

end Completion

end NpdPortal
