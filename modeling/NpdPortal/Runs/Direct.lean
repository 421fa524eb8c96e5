import NpdPortal.Runs.Iteration

/-!
# The transactions without a dispatch marker

Before the markers, one transaction sent the command of a stage and stored its
result.  These transactions are still there: the worker polls with them, and
for a pending row they call the provider as before.  Here they are compared
with the marker, the call and the storing transaction that replaced them.
-/

namespace NpdPortal

/-- The transaction that processes an operation of this type. -/
def processVmOperation (stamp : Time) (db : Database) (operation : Operation) : Txn Changes :=
  match operation.operationType with
  | .vmCreate => processCreateVmOperation stamp db operation
  | .vmStart => processStartVmOperation stamp db operation
  | .vmShutdown | .vmStop => processPowerOffVmOperation stamp db operation
  | .vmReboot => processRebootVmOperation stamp db operation
  | .vmDelete => processDeleteVmOperation stamp db operation

namespace Stage

/-- The transaction does not look at the VM which the task of the stage addresses. -/
def TrustsTask : Stage → Prop
  | configure | resize | initialStart => True
  | _ => False

instance : DecidablePred TrustsTask := fun stage => by
  cases stage <;> unfold TrustsTask <;> infer_instance

/-- The attempts which the transaction adds when it stores a task. -/
def attemptsOfTask : Stage → ℕ
  | clone | configure | resize | initialStart => 0
  | _ => 1

/-- The VM row after a command that was accepted. -/
def sentChange : Stage → VmChange
  | clone => .setStatus .provisioning
  | delete => .setStatus .deleting
  | _ => .keep

/-- The error code is cleared when the stage is confirmed without a task. -/
def clearsDone : Stage → Bool
  | configure | resize | rebootShutdown => false
  | _ => true

/-- The rows after the reply of the command which was sent in the same transaction. -/
def repliedDirectly (stage : Stage) (stamp : Time) (operation : Operation) (vm : VirtualMachine)
    (target : ProviderPlacement) : Reply → Option Changes
  | .task task =>
      if stage.TrustsTask ∨ (task.node = target.node ∧ task.vmid = target.vmid) then
        some {
          operation := { operation with
            status := .processing
            providerTaskId := some task.taskId
            attempts := operation.attempts + stage.attemptsOfTask }
          vm := stage.sentChange.write vm }
      else none
  | .done => some {
      operation := { stage.completed operation with
        lastErrorCode := if stage.clearsDone then none else operation.lastErrorCode }
      vm := stage.doneChange.write vm }
  | .inProgress => some {
      operation := { operation with updatedAt := stamp }
      vm := stage.sentChange.write vm }

/-- How the two ways of one step end for the outcome of its command: `direct` is stored by the
transaction that sent it, `stored` after the marker. -/
structure EndsAlike (stage : Stage) (stamp storeStamp : Time) (operation : Operation)
    (vm : VirtualMachine) (target : ProviderPlacement) (outcome : Except Error ProviderResult)
    (direct stored : Option Changes) : Prop where
  /-- The row with the marker is kept for a reconciliation, the other is sent again. -/
  raised : ∀ error, outcome = .error error → direct = none ∧
    stored = some ((stage.prepared stamp operation vm).operation.failedWith stage.reconcilePhase
      "provider_submit_unknown" storeStamp)
  refused : ∀ result, outcome = .ok result → stage.reply result = none →
    direct = none ∧ stored = none
  done : ∀ result, outcome = .ok result → stage.reply result = some .done →
    ∃ before after, direct = some before ∧ stored = some after ∧
      after.operation = { before.operation with
        attempts := operation.attempts + 1, updatedAt := stamp } ∧
      after.vm.getD (stage.markChange.apply vm) = before.vm.getD vm
  /-- Here too the row without a marker stays pending. -/
  inProgress : ∀ result, outcome = .ok result → stage.reply result = some .inProgress →
    ∃ before after, direct = some before ∧ stored = some after ∧
      before.operation = { operation with updatedAt := stamp } ∧
      after.operation =
        stage.unknownOutcome storeStamp (stage.prepared stamp operation vm).operation ∧
      after.vm.getD (stage.markChange.apply vm) = before.vm.getD vm
  task : ∀ result task, outcome = .ok result → stage.reply result = some (.task task) →
    task.node = target.node ∧ task.vmid = target.vmid →
      ∃ before after, direct = some before ∧ stored = some after ∧
        after.operation = { before.operation with
          attempts := operation.attempts + 1, updatedAt := stamp, phase := some stage.taskPhase } ∧
        after.vm.getD (stage.markChange.apply vm) = before.vm.getD vm
  unaddressed : ∀ result task, outcome = .ok result → stage.reply result = some (.task task) →
    ¬(task.node = target.node ∧ task.vmid = target.vmid) →
      stored = none ∧ (direct = none ↔ ¬stage.TrustsTask)

end Stage

section Direct

variable {db : Database} {operation : Operation} {vm : VirtualMachine}
  {target : ProviderPlacement} {stage : Stage}

/-- A pending row is sent in one transaction: the command of the stage is its only call, and what
it stores is decided by the stage. -/
theorem run_processVmOperation_pending (stamp : Time) (placed : Placed db operation vm target)
    (atStage : (Position.pending stage).Matches operation) (supported : stage ≠ .start)
    {built : CreateVmRequest} (isBuilt : stage.operationType = .vmCreate → stage ≠ .initialStart →
      buildCreateVmRequest db vm = .ok built)
    {provider : Provider} {answer : Except Error (stage.command vm.id built target).Answer}
    (answered : provider 0 (stage.command vm.id built target) = answer) :
    let ran := Program.run provider 0 (processVmOperation stamp db operation)
    ran.1 = [⟨stage.command vm.id built target, answer⟩] ∧
      ran.2.toOption = answer.toOption.bind fun value =>
        (stage.reply ((stage.command vm.id built target).result value)).bind
          (stage.repliedDirectly stamp operation vm target) := by
  have kind := atStage.operationType
  have pending := atStage.status
  have phase := atStage.phase_of_pending
  have noTask := atStage.providerTaskId_eq_none rfl
  have lifecycle := getLifecycleVm_of_placed placed rfl
  have missed := getMissedVm_of_placed placed
  cases stage <;> dsimp only [Stage.command] at answer <;>
    simp only [Position.operationType, Stage.operationType, Position.status, Stage.pendingPhase,
      Stage.command, ne_eq, reduceCtorEq, not_true_eq_false, not_false_eq_true, forall_const,
      false_implies] at kind pending phase isBuilt supported answered <;>
    simp +decide [processVmOperation, processCreateVmOperation, startCreateVmOperation,
      startConfigureVmOperation, startResizeVmOperation, startInitialVmOperation,
      processPowerOffVmOperation, processRebootVmOperation, processDeleteVmOperation, kind, pending,
      phase, noTask, missed, lifecycle, placed.vmStored, placed.node, placed.vmid, isBuilt,
      Stage.command, answered]
  case clone | delete =>
    rcases answer with error | ⟨_ | _ | _, _ | task⟩ <;>
      simp [kind, pending, phase, noTask, placed.node, placed.vmid, Stage.reply,
        Stage.repliedDirectly, Except.toOption, Stage.sentChange, VmChange.write, VmChange.apply,
        Stage.TrustsTask, Stage.attemptsOfTask, Stage.clearsDone, Stage.completed, Stage.next,
        Stage.doneChange, Stage.doneStatus, Stage.pendingPhase, checkTaskTarget, require,
        AdapterCall.result]
    by_cases addressed : task.node = target.node ∧ task.vmid = target.vmid <;> simp [addressed]
  all_goals
    rcases answer with error | _ | task <;>
      simp [kind, pending, phase, noTask, placed.node, placed.vmid, Stage.reply,
        Stage.repliedDirectly, Except.toOption, Stage.sentChange, VmChange.write, VmChange.apply,
        Stage.TrustsTask, Stage.attemptsOfTask, Stage.clearsDone, Stage.completed, Stage.next,
        Stage.doneChange, Stage.doneStatus, Stage.pendingPhase, checkTaskTarget, require,
        AdapterCall.result] <;>
      by_cases addressed : task.node = target.node ∧ task.vmid = target.vmid <;>
      simp [addressed]

/-- Only a clone and a deletion may be under way at the provider without a task. -/
theorem Stage.eq_of_inProgress {result : ProviderResult}
    (inProgress : stage.reply result = some .inProgress) : stage = .clone ∨ stage = .delete := by
  revert inProgress
  cases stage <;> rcases result with ⟨_ | _ | _, _ | _⟩ | (_ | _) | ⟨_ | _ | _, _ | _⟩ <;>
    simp [Stage.reply]

/-- For every outcome the row functions of the two ways end alike. -/
theorem Stage.endsAlike (stamp storeStamp : Time) (vm : VirtualMachine)
    (target : ProviderPlacement) (clean : operation.lastErrorCode = none)
    (outcome : Except Error ProviderResult) :
    stage.EndsAlike stamp storeStamp operation vm target outcome
      (outcome.toOption.bind fun result =>
        (stage.reply result).bind (stage.repliedDirectly stamp operation vm target))
      (stage.storing storeStamp (stage.prepared stamp operation vm).operation
        (stage.markChange.apply vm) target outcome) where
  raised := by
    rintro error rfl
    exact ⟨rfl, rfl⟩
  refused := by
    rintro result rfl refused
    simp [Except.toOption, Stage.storing, refused]
  done := by
    rintro result rfl done
    refine ⟨_, _, by simp only [Except.toOption, Option.bind_some, done]; rfl,
      by simp only [Stage.storing, Option.bind_some, done]; rfl, ?_, ?_⟩
    · cases stage <;> simp [completed, next, clearsDone, prepared, clean]
    · cases stage <;> rfl
  inProgress := by
    rintro result rfl inProgress
    refine ⟨_, _, by simp only [Except.toOption, Option.bind_some, inProgress]; rfl,
      by simp only [Stage.storing, Option.bind_some, inProgress]; rfl, rfl, rfl, ?_⟩
    rcases eq_of_inProgress inProgress with rfl | rfl <;> rfl
  task := by
    rintro result task rfl carries addressed
    refine ⟨_, _, by
        simp only [Except.toOption, Option.bind_some, carries]
        exact if_pos (.inr addressed), by
        simp only [Stage.storing, Option.bind_some, carries]
        exact if_pos addressed, ?_, ?_⟩
    · cases stage <;> simp [withTask, prepared, clean]
    · cases stage <;> rfl
  unaddressed := by
    rintro result task rfl carries unaddressed
    simp [Except.toOption, Stage.storing, carries, replied, repliedDirectly, unaddressed]

/-- The marker, the call and the storing transaction make the same call as the transaction that
sends by itself, and end alike whatever the provider answers. -/
theorem processVmOperation_agrees (stamp storeStamp : Time)
    (placed : Placed db operation vm target)
    (hasKey : stage.operationType = .vmCreate → HasSshKey db vm)
    (atStage : (Position.pending stage).Matches operation) (supported : stage ≠ .start)
    (clean : operation.lastErrorCode = none) {changes : Changes} {dispatch : Dispatch}
    (marking : runSelected stamp db operation = .done (.ok (changes, some dispatch)))
    {marked : Database} (committed : marked.operation? operation.id = some changes.operation)
    (placedAfter : Placed marked changes.operation (changes.vm.getD vm) target)
    (provider : Provider) :
    let direct := Program.run provider 0 (processVmOperation stamp db operation)
    let sent := Program.run provider 0 dispatch.submit
    sent.1 = direct.1 ∧ stage.EndsAlike stamp storeStamp operation vm target sent.2
      direct.2.toOption (storeOutcome storeStamp marked dispatch sent.2).toOption := by
  intro direct sent
  rcases runSelected_pending stamp placed hasKey atStage with ⟨request, given, computed⟩
  rw [computed] at marking
  injection marking with marking
  injection marking with marking
  injection marking with isChanges isDispatch
  injection isDispatch with isDispatch
  subst isChanges isDispatch
  have vmId : vm.id = operation.virtualMachineId :=
    (Database.virtualMachine?_eq_some_iff.mp placed.vmStored).2
  have built : ∃ built, stage.operationType = .vmCreate → stage ≠ .initialStart →
      buildCreateVmRequest db vm = .ok built ∧ request = some built := by
    by_cases creates : stage.operationType = .vmCreate ∧ stage ≠ .initialStart
    · rcases given creates.1 creates.2 with ⟨built, isBuilt⟩
      exact ⟨built, fun _ _ => isBuilt⟩
    · exact ⟨⟨vm.id, "", 0, 0, 0, ""⟩, fun isCreate notStart => absurd ⟨isCreate, notStart⟩ creates⟩
  rcases built with ⟨built, isBuilt⟩
  rcases run_processVmOperation_pending stamp placed atStage supported
    (fun isCreate notStart => (isBuilt isCreate notStart).1)
    (rfl : provider 0 (stage.command vm.id built target) = _) with ⟨exchanges, stores⟩
  have submits := stage.submit_eq operation built target fun isCreate notStart =>
    (isBuilt isCreate notStart).2
  rw [← vmId] at submits
  let call := stage.command vm.id built target
  have ran : sent = ([⟨call, provider 0 call⟩], (provider 0 call).map call.result) := by
    simp only [sent, submits, Program.run_call, Program.run_done]
    rfl
  have refines : (stage.prepared stamp operation vm).Refines .marked (.pending stage) operation vm
      (.dispatching stage) := Stage.prepared_refines atStage
  rcases refines with ⟨_, _, atMarked, _⟩
  have markedVm : (stage.prepared stamp operation vm).vm.getD vm = stage.markChange.apply vm := by
    cases stage <;> rfl
  rw [markedVm] at placedAfter
  have shares : stage.Shares stage := .inl rfl
  have stored : (storeOutcome storeStamp marked (stage.dispatch operation request target)
      sent.2).toOption = stage.storing storeStamp (stage.prepared stamp operation vm).operation
        (stage.markChange.apply vm) target sent.2 := by
    rw [storeOutcome_eq storeStamp sent.2 committed placedAfter atMarked atMarked.operationType]
    cases sent.2 <;> simp [Position.replied, Position.raised, shares, Stage.storing]
  refine ⟨by rw [ran]; exact exchanges.symm, ?_⟩
  have stores : direct.2.toOption = sent.2.toOption.bind fun result =>
      (stage.reply result).bind (stage.repliedDirectly stamp operation vm target) := by
    rw [ran, stores]
    cases provider 0 call <;> rfl
  rw [stored, stores]
  exact stage.endsAlike stamp storeStamp vm target clean sent.2

end Direct

section Sample

/-- A running VM which is asked to stop. -/
def sampleStopRequest : List Action :=
  sampleRunningVm ++ [.enqueue ⟨0, 42, 6⟩ 1 31 .vmStop "stop"]

def sampleStopRequested : Database := (World.initial.perform sampleStopRequest).2.db

/-- The dispatch marker of the operation is committed. -/
def sampleStopMarked : Database :=
  (World.initial.perform (sampleStopRequest ++
    [.select 7 [] 42 (sampleProvider .running .running) 7 7])).2.db

def sampleUnsentStop : Operation where
  id := 42
  virtualMachineId := 31
  operationType := .vmStop
  status := .pending
  phase := none
  idempotencyKey := "stop"
  attempts := 0
  lastErrorCode := none
  providerTaskId := none
  updatedAt := 6

def sampleRunningMachine : VirtualMachine where
  id := 31
  ownerUserId := 1
  status := .running
  requestedVcpus := 1
  requestedMemoryMb := 1024
  requestedStorageGb := 10
  imageId := "almalinux-9"
  providerVmid := some 100
  providerNode := some "node"
  sshPublicKeyId := some 11

set_option maxRecDepth 10000 in
/-- The stop is sent by both ways, and the task of the VM is stored by both. -/
theorem sampleUnsentStop_agrees :
    let provider := sampleProvider .running .running
    let direct := Program.run provider 0
      (processVmOperation 7 sampleStopRequested sampleUnsentStop)
    let dispatch := Stage.stop.dispatch sampleUnsentStop none ⟨"node", 100⟩
    let sent := Program.run provider 0 dispatch.submit
    sent.1.length = 1 ∧ sent.1 = direct.1 ∧
      Stage.stop.EndsAlike 7 9 sampleUnsentStop sampleRunningMachine ⟨"node", 100⟩ sent.2
        direct.2.toOption (storeOutcome 9 sampleStopMarked dispatch sent.2).toOption := by
  have placed : Placed sampleStopRequested sampleUnsentStop sampleRunningMachine ⟨"node", 100⟩ :=
    ⟨rfl, rfl, rfl⟩
  have atStage : (Position.pending .stop).Matches sampleUnsentStop :=
    ⟨rfl, rfl, by decide, rfl⟩
  have marking : runSelected 7 sampleStopRequested sampleUnsentStop =
      .done (.ok (Stage.stop.prepared 7 sampleUnsentStop sampleRunningMachine,
        some (Stage.stop.dispatch sampleUnsentStop none ⟨"node", 100⟩))) := rfl
  have committed : sampleStopMarked.operation? sampleUnsentStop.id =
      some (Stage.stop.prepared 7 sampleUnsentStop sampleRunningMachine).operation := rfl
  exact ⟨rfl, processVmOperation_agrees 7 9 placed (by simp [Stage.operationType]) atStage
    (by decide) rfl marking committed ⟨rfl, rfl, rfl⟩ (sampleProvider .running .running)⟩

end Sample

end NpdPortal
