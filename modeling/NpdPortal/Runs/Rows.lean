import NpdPortal.Stages.Progress

/-!
# Rows along runs

What a step, and then a whole run, can do to one operation row: it is kept or
it moves along the stage machine.  An operation that has ended is final and
the stage of an operation only moves forward.
-/

namespace NpdPortal

section Step

variable {world next : World} {event : Event}

/-- The step which gave the evidence for the move of a row. -/
def Evidence.GivenBy (evidence : Evidence) (operation updated : Operation)
    (vm : VirtualMachine) (event : Event) : Prop :=
  match evidence with
  | .outcome answer => ∃ dispatch, event = .stored dispatch answer true ∧
      dispatch.operationId = operation.id
  | evidence => ∃ exchanges, event = .selected operation exchanges (some updated) ∧
      evidence.Shows operation vm exchanges

theorem Evidence.GivenBy.operationId {evidence : Evidence} {operation updated : Operation}
    {vm : VirtualMachine} (given : evidence.GivenBy operation updated vm event) :
    event.operationId = some operation.id := by
  cases evidence with
  | outcome outcome =>
      rcases given with ⟨dispatch, rfl, same⟩
      exact congrArg some same
  | _ =>
      rcases given with ⟨exchanges, rfl, _⟩
      rfl

theorem Evidence.Shows.givenBy {evidence : Evidence} {operation : Operation}
    {vm : VirtualMachine} {exchanges : List Exchange}
    (shows : evidence.Shows operation vm exchanges) (updated : Operation) :
    evidence.GivenBy operation updated vm (.selected operation exchanges (some updated)) := by
  cases evidence with
  | outcome outcome => exact False.elim shows
  | _ => exact ⟨exchanges, rfl, shows⟩

/-- A step inserts operations, moves one operation or leaves the operations alone. -/
theorem Progress.operations (progress : Progress world event next) :
    (∃ evidence operation updated vm position reached change,
      Moved world.db next.db evidence operation updated vm position reached change ∧
        evidence.GivenBy operation updated vm event) ∨
    ∃ inserted, next.db.operations = world.db.operations ++ inserted ∧
      ∀ operation ∈ inserted, ∃ stage, stage.index = 0 ∧
        (Position.pending stage).Matches operation := by
  cases progress with
  | created db context userId request idempotencyKey created =>
      refine .inr ⟨[newCreateOperation context.operationId context.vmId idempotencyKey
        context.now], by rw [created.tables], fun operation operationMem => ⟨.clone, rfl, ?_⟩⟩
      rcases List.mem_singleton.mp operationMem with rfl
      exact newCreateOperation_matches _ _ _
  | enqueued db context userId vmId operationType idempotencyKey vm enqueued =>
      refine .inr ⟨[newLifecycleOperation context.operationId vmId operationType idempotencyKey
        context.now], by rw [enqueued.tables], fun operation operationMem =>
        ⟨operationType.firstStage, by cases operationType <;> rfl, ?_⟩⟩
      rcases List.mem_singleton.mp operationMem with rfl
      refine newLifecycleOperation_matches _ _ _ ?_
      rintro rfl
      rcases enqueued.allowed with ⟨statuses, allowed, _⟩
      cases allowed
  | administered db administers => exact .inr ⟨[], by simp [administers.operations], by simp⟩
  | marked db operation updated vm stage request target moved =>
      exact .inl ⟨_, _, _, _, _, _, _, moved, [], rfl, rfl⟩
  | followed db operation updated vm position reached change evidence exchanges shows _ moved =>
      exact .inl ⟨_, _, _, _, _, _, _, moved, shows.givenBy updated⟩
  | stored index dispatch outcome db operation updated vm position reached change _ same moved =>
      exact .inl ⟨_, _, _, _, _, _, _, moved, dispatch, rfl, same.symm⟩
  | _ => exact .inr ⟨[], by simp, by simp⟩

/-- A step keeps an operation row or moves it. -/
theorem Progress.row (progress : Progress world event next) {operation : Operation}
    (stored : operation ∈ world.db.operations) :
    operation ∈ next.db.operations ∨
      ∃ evidence updated vm position reached change,
        Moved world.db next.db evidence operation updated vm position reached change ∧
          evidence.GivenBy operation updated vm event := by
  rcases progress.operations with
    ⟨evidence, other, updated, vm, position, reached, change, moved, given⟩ | ⟨inserted, rows, _⟩
  · by_cases same : operation.id = updated.id
    · obtain rfl : operation = other :=
        KeyedRows.eq_of_key_eq world.db.valid.operationIds stored moved.stored
          (same.trans moved.identity.id)
      exact .inr ⟨evidence, updated, vm, position, reached, change, moved, given⟩
    · left
      rw [moved.operations]
      exact KeyedRows.mem_replace.mpr (.inr ⟨stored, same⟩)
  · left
    rw [rows]
    exact List.mem_append_left _ stored

/-- A row after a step was there before, or it was moved, or it is new. -/
theorem Progress.row_after (progress : Progress world event next) {updated : Operation}
    (stored : updated ∈ next.db.operations) :
    updated ∈ world.db.operations ∨
      (∃ evidence operation vm position reached change,
        Moved world.db next.db evidence operation updated vm position reached change ∧
          evidence.GivenBy operation updated vm event) ∨
      ∃ stage, stage.index = 0 ∧ (Position.pending stage).Matches updated := by
  rcases progress.operations with
    ⟨evidence, other, moveTo, vm, position, reached, change, moved, given⟩ | ⟨inserted, rows, new⟩
  · rw [moved.operations, KeyedRows.mem_replace] at stored
    rcases stored with ⟨rfl, _⟩ | ⟨stored, _⟩
    · exact .inr (.inl ⟨evidence, other, vm, position, reached, change, moved, given⟩)
    · exact .inl stored
  · rw [rows] at stored
    rcases List.mem_append.mp stored with old | inserts
    · exact .inl old
    · exact .inr (.inr (new updated inserts))

end Step

/-! ## Forward moves -/

/-- No move goes back to an earlier stage. -/
theorem Advance.stageIndex_le {evidence : Evidence} {position reached : Position}
    {change : VmChange} (advance : Advance evidence position reached change) :
    position.stageIndex ≤ reached.stageIndex := by
  have after : ∀ stage : Stage, stage.index ≤ stage.after.stageIndex := by
    intro stage
    cases stage <;> decide
  cases advance with
  | pollSucceeded stage backoff answer succeeded => exact after stage
  | confirmed stage position state awaits _ => rcases awaits with rfl | rfl <;> exact after stage
  | unconfirmed stage position state awaits _ _ => rcases awaits with rfl | rfl <;> exact le_rfl
  | readRaised stage position error awaits _ => rcases awaits with rfl | rfl <;> exact le_rfl
  | review stage position awaits _ => rcases awaits with rfl | rfl <;> exact le_rfl
  | storeTask stage position result task _ waiting =>
      rcases waiting with rfl | ⟨rfl, _⟩ <;> exact le_rfl
  | storeDone stage result done => exact after stage
  | _ => exact le_rfl

/-- How an operation row of a later state compares with the earlier row. -/
structure Operation.Forward (operation later : Operation) : Prop where
  identity : operation.SameIdentity later
  final : ¬operation.Active → later = operation
  stages : ∀ position : Position, position.Matches operation →
    ∃ reached : Position, reached.Matches later ∧ position.stageIndex ≤ reached.stageIndex

theorem Operation.Forward.refl (operation : Operation) : operation.Forward operation :=
  ⟨.refl operation, fun _ => rfl, fun position atPosition => ⟨position, atPosition, le_rfl⟩⟩

theorem Operation.Forward.trans {first second third : Operation}
    (before : first.Forward second) (after : second.Forward third) : first.Forward third where
  identity := before.identity.trans after.identity
  final ended := by
    rcases before.final ended with rfl
    exact after.final ended
  stages position atPosition := by
    rcases before.stages position atPosition with ⟨middle, atMiddle, lower⟩
    rcases after.stages middle atMiddle with ⟨reached, atReached, upper⟩
    exact ⟨reached, atReached, lower.trans upper⟩

/-- The moved row comes after the row it replaces. -/
theorem Moved.forward {db next : Database} {evidence : Evidence}
    {operation updated : Operation} {vm : VirtualMachine} {position reached : Position}
    {change : VmChange}
    (moved : Moved db next evidence operation updated vm position reached change) :
    operation.Forward updated where
  identity := moved.identity
  final ended :=
    absurd (moved.atPosition.active_iff.mpr moved.advance.not_terminal) ended
  stages other atOther := by
    rcases atOther.unique moved.atPosition with rfl
    exact ⟨reached, moved.atReached, moved.advance.stageIndex_le⟩

section Runs

variable {world later : World} {history : List Event} {operation : Operation}

/-- Every row is followed by one that comes after it. -/
theorem Progress.forward {event : Event} (progress : Progress world event later)
    (stored : operation ∈ world.db.operations) :
    ∃ updated ∈ later.db.operations, operation.Forward updated := by
  rcases progress.row stored with kept | ⟨evidence, updated, vm, position, reached, change, moved,
    _⟩
  · exact ⟨operation, kept, .refl operation⟩
  · exact ⟨updated, (Database.operation?_eq_some_iff.mp moved.stored_updated).1, moved.forward⟩

/-- Along every run the rows only come forward. -/
theorem forward_of_run (reachable : portal.Reachable world) (run : portal.Run world history later)
    (stored : operation ∈ world.db.operations) :
    ∃ updated ∈ later.db.operations, operation.Forward updated := by
  refine run.relates (motive := fun first second =>
    ∀ operation ∈ first.db.operations, ∃ updated ∈ second.db.operations,
      operation.Forward updated) ?_ ?_ ?_ reachable operation stored
  · exact fun state operation operationMem => ⟨operation, operationMem, .refl operation⟩
  · intro first second third before after operation operationMem
    rcases before operation operationMem with ⟨middle, middleMem, toMiddle⟩
    rcases after middle middleMem with ⟨updated, updatedMem, toUpdated⟩
    exact ⟨updated, updatedMem, toMiddle.trans toUpdated⟩
  · intro state event next stateReachable step operation operationMem
    exact (step_progress (sound_of_reachable stateReachable) step).forward operationMem

/-- A step made for an operation that has ended changes no VM row. -/
theorem Progress.virtualMachines_of_ended {event : Event}
    (progress : Progress world event later) (stored : operation ∈ world.db.operations)
    (ended : ¬operation.Active) (isFor : event.operationId = some operation.id) :
    later.db.virtualMachines = world.db.virtualMachines := by
  have impossible : ∀ {db : Database} {evidence other updated vm position reached change},
      Moved world.db db evidence other updated vm position reached change →
      event.operationId = some other.id → False := by
    intro db evidence other updated vm position reached change moved label
    have same : other = operation := KeyedRows.eq_of_key_eq world.db.valid.operationIds
      moved.stored stored (Option.some.inj (label.symm.trans isFor))
    exact ended (same ▸ moved.atPosition.active_iff.mpr moved.advance.not_terminal)
  cases progress with
  | created => cases isFor
  | enqueued => cases isFor
  | administered => cases isFor
  | marked db other updated vm stage request target moved => exact (impossible moved rfl).elim
  | followed db other updated vm position reached change evidence exchanges _ _ moved =>
      exact (impossible moved rfl).elim
  | stored index dispatch outcome db other updated vm position reached change _ same moved =>
      exact (impossible moved (congrArg some same.symm)).elim
  | _ => rfl

/-- An operation that has ended is final, with its VM, and no operation goes back to an
earlier stage. -/
theorem operation_final_and_forward (reachable : portal.Reachable world)
    (run : portal.Run world history later) (stored : operation ∈ world.db.operations) :
    (operation.status = .succeeded ∨ operation.status = .failed →
      later.db.operation? operation.id = some operation ∧
      ∀ earlier event rest before after, history = earlier ++ event :: rest →
        portal.Run world earlier before → portal.step before event after →
        event.operationId = some operation.id →
        after.db.virtualMachines = before.db.virtualMachines) ∧
    ∃ updated, later.db.operation? operation.id = some updated ∧
      (∃ position : Position, position.Matches operation) ∧
      (∃ reached : Position, reached.Matches updated) ∧
      ∀ position reached : Position, position.Matches operation → reached.Matches updated →
        position.stageIndex ≤ reached.stageIndex := by
  rcases forward_of_run reachable run stored with ⟨updated, updatedMem, forward⟩
  have found : later.db.operation? operation.id = some updated :=
    Database.operation?_eq_some_iff.mpr ⟨updatedMem, forward.identity.id⟩
  refine ⟨fun terminal => ?_, updated, found, ?_⟩
  · have ended : ¬operation.Active := by
      rcases terminal with status | status <;> simp [Operation.Active, status]
    refine ⟨forward.final ended ▸ found, fun earlier event rest before after _ run step isFor => ?_⟩
    rcases forward_of_run reachable run stored with ⟨kept, keptMem, keptForward⟩
    have beforeReachable : portal.Reachable before := by
      rcases reachable with ⟨source, first, initial, toWorld⟩
      exact ⟨source, _, initial, toWorld.append run⟩
    exact (step_progress (sound_of_reachable beforeReachable) step).virtualMachines_of_ended
      (keptForward.final ended ▸ keptMem) ended isFor
  · rcases (sound_of_reachable reachable).db.ready stored with ⟨position, vm, atPosition, _⟩
    rcases forward.stages position atPosition with ⟨reached, atReached, _⟩
    refine ⟨⟨position, atPosition⟩, ⟨reached, atReached⟩, fun first second atFirst atSecond => ?_⟩
    rcases forward.stages first atFirst with ⟨other, atOther, le⟩
    rwa [atSecond.unique atOther]

end Runs

/-! ## A sample portal -/

/-- One user with a key and a plan for two VMs. -/
def sampleAdministration : Administration where
  sshPublicKeys := [⟨11, 1, "ssh-ed25519 AAAA"⟩]
  userQuotas := [⟨1, 21, .active⟩]
  computePlans := [⟨21, "starter", 2, 4, 4096, 40, 0, true⟩]

def sampleRequest : VirtualMachineCreate where
  requestedVcpus := 1
  requestedMemoryMb := 1024
  requestedStorageGb := 10
  imageId := "almalinux-9"
  sshPublicKeyId := 11
  vcpusPositive := by decide
  memoryPositive := by decide
  storagePositive := by decide

/-- A provider which needs no task for a create and hands out one for every other command. -/
def sampleProvider (power : PowerState) (task : TaskState) : Provider := fun _ call =>
  match call with
  | .getVmPowerState .. => .ok { status := power }
  | .chooseCloneTarget _ => .ok ⟨"node", 100⟩
  | .getTaskStatus _ => .ok { status := task }
  | .cloneVm .. => .ok { state := .succeeded }
  | .configureVm .. => .ok none
  | .resizeVmDisk .. => .ok none
  | .startVm .. => .ok none
  | .shutdownVm _ node vmid => .ok (some ⟨"UPID:shutdown", vmid, node⟩)
  | .stopVm _ node vmid => .ok (some ⟨"UPID:stop", vmid, node⟩)
  | .deleteVm _ node vmid => .ok { state := .submitted, task := some ⟨"UPID:delete", vmid, node⟩ }

/-- One iteration of a worker that is alone: mark, send and store. -/
def sampleIteration (operationId : Uuid) (now : Time) : List Action :=
  [.select now [] operationId (sampleProvider .running .running) now now,
    .submit 0 (sampleProvider .running .running), .store 0 now now]

/-- The VM 31 of the sample user is created and started by the operation 41. -/
def sampleRunningVm : List Action :=
  [.administer sampleAdministration, .createVm ⟨31, 41, 0⟩ 1 sampleRequest "create",
    .select 1 [] 41 (sampleProvider .running .running) 1 1] ++
  sampleIteration 41 2 ++ sampleIteration 41 3 ++ sampleIteration 41 4 ++ sampleIteration 41 5

/-- The VM is to be stopped by the operation 42, whose command is sent; before its outcome
is stored another worker finds the VM stopped. -/
def sampleStop : List Action :=
  sampleRunningVm ++
  [.enqueue ⟨0, 42, 6⟩ 1 31 .vmStop "stop",
    .select 7 [] 42 (sampleProvider .running .running) 7 7,
    .submit 0 (sampleProvider .running .running),
    .select (8 + dispatchGrace) [] 42 (sampleProvider .stopped .running) 8 8]

set_option maxRecDepth 10000 in
/-- The outcome that comes too late changes neither the operation nor the VM. -/
theorem sampleStop_final :
    let world := (World.initial.perform sampleStop).2
    let later := (world.perform [.store 0 9 9]).2
    ∃ operation ∈ world.db.operations, operation.status = .succeeded ∧
      later.inFlight.length + 1 = world.inFlight.length ∧
      later.db.operation? operation.id = some operation := by
  intro world later
  have stored : world.db.operations[1]? = some {
      id := 42, virtualMachineId := 31, operationType := .vmStop, status := .succeeded,
      phase := some "complete", idempotencyKey := "stop", attempts := 1, lastErrorCode := none,
      providerTaskId := none, updatedAt := 8 } := by decide +kernel
  refine ⟨_, List.mem_of_getElem? stored, rfl, by decide +kernel, ?_⟩
  exact ((operation_final_and_forward (World.perform_reachable sampleStop)
    (world.perform_run [.store 0 9 9]) (List.mem_of_getElem? stored)).1 (.inl rfl)).1

end NpdPortal
