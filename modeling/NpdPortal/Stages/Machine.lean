import NpdPortal.Stages.Position

/-!
# The stage machine

What the worker is for, stated once for all operation types: a stage is marked,
sent, and then confirmed by a task, by the result of the call or by the power
state of the VM.  `Advance` lists every move between positions with what it is
based on and what it does to the VM row.  The row functions `prepared`,
`polled`, `reconciled` and `finished` are the uniform form of the transactions
of the services.
-/

namespace NpdPortal

/-- What a transaction does to the VM row. -/
inductive VmChange where
  | keep
  | setStatus (status : VmStatus)
  | place (target : ProviderPlacement)
  deriving DecidableEq, Repr

namespace VmChange

/-- The VM row after the change. -/
def apply (change : VmChange) (vm : VirtualMachine) : VirtualMachine :=
  match change with
  | keep => vm
  | setStatus status => { vm with status }
  | place target => { vm with
      providerNode := some target.node, providerVmid := some target.vmid }

/-- The VM row which the change hands to the session, if any. -/
def write (change : VmChange) (vm : VirtualMachine) : Option VirtualMachine :=
  match change with
  | keep => none
  | _ => some (change.apply vm)

/-- The VM status after the change. -/
def newStatus (change : VmChange) (status : VmStatus) : VmStatus :=
  match change with
  | setStatus status => status
  | _ => status

@[simp]
theorem apply_status (change : VmChange) (vm : VirtualMachine) :
    (change.apply vm).status = change.newStatus vm.status := by
  cases change <;> rfl

@[simp]
theorem apply_id (change : VmChange) (vm : VirtualMachine) : (change.apply vm).id = vm.id := by
  cases change <;> rfl

@[simp]
theorem apply_ownerUserId (change : VmChange) (vm : VirtualMachine) :
    (change.apply vm).ownerUserId = vm.ownerUserId := by
  cases change <;> rfl

@[simp]
theorem apply_sshPublicKeyId (change : VmChange) (vm : VirtualMachine) :
    (change.apply vm).sshPublicKeyId = vm.sshPublicKeyId := by
  cases change <;> rfl

end VmChange

namespace Stage

/-- The VM status which the confirmed stage leaves. -/
def doneStatus : Stage → Option VmStatus
  | clone => some .provisioning
  | configure | resize => none
  | initialStart | start | rebootStart => some .running
  | shutdown | stop | rebootShutdown => some .stopped
  | delete => some .deleted

/-- The change of the VM row when the stage is confirmed. -/
def doneChange (stage : Stage) : VmChange :=
  match stage.doneStatus with
  | some status => .setStatus status
  | none => .keep

/-- The change when a polled task succeeded: after the clone it is already made. -/
def pollChange (stage : Stage) : VmChange :=
  if stage = clone then .keep else stage.doneChange

/-- The change when a polled task failed. -/
def failChange (stage : Stage) : VmChange :=
  match stage.operationType with
  | .vmCreate => .setStatus .failed
  | .vmDelete => .setStatus .deleting
  | _ => .keep

/-- The change when the dispatch marker is stored. -/
def markChange (stage : Stage) : VmChange :=
  if stage = delete then .setStatus .deleting else .keep

/-- The change when the task of the sent command is stored. -/
def taskChange (stage : Stage) : VmChange :=
  if stage = clone then .setStatus .provisioning else .keep

/-- The power state confirms the stage. -/
def Confirms (stage : Stage) (state : ProviderVmState) : Prop :=
  match stage with
  | clone | shutdown | stop | rebootShutdown => state.status = .stopped ∧ ¬state.locked
  | initialStart | start | rebootStart => state.status = .running ∧ ¬state.locked
  | delete => state.status = .missing
  | configure | resize => False

instance (stage : Stage) (state : ProviderVmState) : Decidable (stage.Confirms state) := by
  cases stage <;> unfold Confirms <;> infer_instance

/-- The power state is never asked for: repeating these stages is not safe. -/
def NeedsReview : Stage → Prop
  | configure | resize => True
  | _ => False

instance : DecidablePred NeedsReview := fun stage => by
  cases stage <;> unfold NeedsReview <;> infer_instance

/-- A task is still accepted while the stage is reconciled. -/
def AcceptsLateTask : Stage → Prop
  | shutdown | stop => True
  | _ => False

instance : DecidablePred AcceptsLateTask := fun stage => by
  cases stage <;> unfold AcceptsLateTask <;> infer_instance

/-- A running task ends the back-off of the stage. -/
def endsBackoff : Stage → Bool
  | shutdown | stop | delete => false
  | _ => true

/-- A running task clears the error code of the stage. -/
def clearsError : Stage → Bool
  | clone | configure | resize | initialStart | start => true
  | _ => false

end Stage

/-- What a transaction learned before it moved the operation. -/
inductive Evidence where
  /-- The provider chose a placement. -/
  | placed (target : ProviderPlacement)
  /-- Nothing: the dispatch marker was stored. -/
  | marked
  /-- The answer to a poll of the stored task. -/
  | polled (answer : Except Error ProviderTaskStatus)
  /-- The answer to a read of the power state. -/
  | read (answer : Except Error ProviderVmState)
  /-- Nothing: the stage was handed to an operator. -/
  | reviewed
  /-- The outcome of a provider call made after the marker was committed. -/
  | outcome (outcome : Except Error ProviderResult)

/-- The command of this stage may be under way without a stored task. -/
def Position.Awaits (position : Position) (stage : Stage) : Prop :=
  position = .dispatching stage ∨ position = .reconciling stage

instance (position : Position) (stage : Stage) : Decidable (position.Awaits stage) :=
  inferInstanceAs (Decidable (_ ∨ _))

/-- What the result of a provider call says about its stage. -/
inductive Reply where
  | task (task : ProviderTask)
  | done
  | inProgress
  deriving DecidableEq, Repr

/-- The results that the storing transaction of a stage accepts. -/
def Stage.reply : Stage → ProviderResult → Option Reply
  | .clone, .clone ⟨.submitted, some task⟩ => some (.task task)
  | .clone, .clone ⟨.succeeded, none⟩ => some .done
  | .clone, .clone ⟨.inProgress, none⟩ => some .inProgress
  | .clone, _ => none
  | .delete, .delete ⟨.submitted, some task⟩ => some (.task task)
  | .delete, .delete ⟨.succeeded, none⟩ => some .done
  | .delete, .delete ⟨.inProgress, none⟩ => some .inProgress
  | .delete, _ => none
  | _, .task (some task) => some (.task task)
  | _, .task none => some .done
  | _, _ => none

theorem Stage.task_of_reply {stage : Stage} {result : ProviderResult} {task : ProviderTask}
    (carries : stage.reply result = some (.task task)) : result.task? = some task := by
  cases stage <;> rcases result with ⟨_ | _ | _, _ | _⟩ | (_ | _) | ⟨_ | _ | _, _ | _⟩ <;>
    simp_all [Stage.reply, ProviderResult.task?]

theorem Stage.reply_of_task {stage : Stage} {result : ProviderResult} {task : ProviderTask}
    {reply : Reply} (carries : result.task? = some task)
    (accepted : stage.reply result = some reply) : reply = .task task := by
  cases stage <;> rcases result with ⟨_ | _ | _, _ | _⟩ | (_ | _) | ⟨_ | _ | _, _ | _⟩ <;>
    simp_all [Stage.reply, ProviderResult.task?]

/-- The storing transaction of the first stage does not tell the second from it: the
lifecycle functions are not given the command, so the two stages of a reboot share one. -/
def Stage.Shares (dispatched current : Stage) : Prop :=
  dispatched = current ∨
    dispatched.operationType = .vmReboot ∧ current.operationType = .vmReboot

instance (dispatched current : Stage) : Decidable (dispatched.Shares current) :=
  inferInstanceAs (Decidable (_ ∨ _))

/-- The moves between positions. -/
inductive Advance : Evidence → Position → Position → VmChange → Prop where
  | place (target : ProviderPlacement) :
      Advance (.placed target) (.pending .clone) (.pending .clone) (.place target)
  | mark (stage : Stage) :
      Advance .marked (.pending stage) (.dispatching stage) stage.markChange
  | pollRunning (stage : Stage) (backoff : Bool) (status : ProviderTaskStatus)
      (running : status.status = .running) :
      Advance (.polled (.ok status)) (.polling stage backoff)
        (.polling stage (backoff && !stage.endsBackoff)) .keep
  | pollSucceeded (stage : Stage) (backoff : Bool) (status : ProviderTaskStatus)
      (succeeded : status.status = .succeeded) :
      Advance (.polled (.ok status)) (.polling stage backoff) stage.after stage.pollChange
  | pollFailed (stage : Stage) (backoff : Bool) (status : ProviderTaskStatus)
      (failed : status.status = .failed) :
      Advance (.polled (.ok status)) (.polling stage backoff) (.failed stage) stage.failChange
  | pollRaised (stage : Stage) (backoff : Bool) (error : Error) :
      Advance (.polled (.error error)) (.polling stage backoff) (.polling stage true) .keep
  | confirmed (stage : Stage) (position : Position) (state : ProviderVmState)
      (awaits : position.Awaits stage) (confirms : stage.Confirms state) :
      Advance (.read (.ok state)) position stage.after stage.doneChange
  | unconfirmed (stage : Stage) (position : Position) (state : ProviderVmState)
      (awaits : position.Awaits stage) (notConfirms : ¬stage.Confirms state)
      (readable : ¬stage.NeedsReview) :
      Advance (.read (.ok state)) position (.reconciling stage) .keep
  | readRaised (stage : Stage) (position : Position) (error : Error)
      (awaits : position.Awaits stage) (readable : ¬stage.NeedsReview) :
      Advance (.read (.error error)) position (.reconciling stage) .keep
  | review (stage : Stage) (position : Position) (awaits : position.Awaits stage)
      (needsReview : stage.NeedsReview) :
      Advance .reviewed position (.review stage) .keep
  | storeTask (stage : Stage) (position : Position) (result : ProviderResult)
      (task : ProviderTask) (carries : stage.reply result = some (.task task))
      (waiting : position = .dispatching stage ∨
        position = .reconciling stage ∧ stage.AcceptsLateTask) :
      Advance (.outcome (.ok result)) position (.polling stage false) stage.taskChange
  | storeDone (stage : Stage) (result : ProviderResult)
      (done : stage.reply result = some .done) :
      Advance (.outcome (.ok result)) (.dispatching stage) stage.after stage.doneChange
  | storeInProgress (stage : Stage) (result : ProviderResult)
      (inProgress : stage.reply result = some .inProgress) :
      Advance (.outcome (.ok result)) (.dispatching stage) (.reconciling stage) stage.taskChange
  | storeUnknown (stage : Stage) (error : Error) :
      Advance (.outcome (.error error)) (.dispatching stage) (.reconciling stage) .keep

/-- Two versions of one operation row: the columns no transaction writes agree. -/
structure Operation.SameIdentity (operation other : Operation) : Prop where
  id : other.id = operation.id
  virtualMachineId : other.virtualMachineId = operation.virtualMachineId
  operationType : other.operationType = operation.operationType
  idempotencyKey : other.idempotencyKey = operation.idempotencyKey

/-- The provider task a row has after a move that keeps or stores one. -/
def Evidence.task (evidence : Evidence) (stage : Stage) (operation : Operation) :
    Option String :=
  match evidence with
  | .outcome (.ok result) =>
      match stage.reply result with
      | some (.task task) => some task.taskId
      | _ => none
  | _ => operation.providerTaskId

/-- A row that has a task at `target` has the one the evidence gives. -/
def Evidence.KeepsTask (evidence : Evidence) (operation updated : Operation)
    (target : Position) : Prop :=
  ∀ stage, (∃ backoff, target = .polling stage backoff) ∨ target = .failed stage →
    updated.providerTaskId = evidence.task stage operation

/-- The error codes which the worker itself writes. -/
def workerCodes : List (Option String) :=
  [none, some "provider_status_unavailable", some "provider_submit_unknown",
    some "provider_outcome_unknown"]

/-- The error code which a poll brings. -/
def Evidence.failure? : Evidence → Option String
  | .polled (.ok status) => if status.status = .failed then some (failureCode status) else none
  | _ => none

/-- A move writes the error code the evidence brings, or keeps the old one, or writes one of the
worker's own. -/
def Evidence.KeepsCode (evidence : Evidence) (operation updated : Operation) : Prop :=
  match evidence.failure? with
  | some code => updated.lastErrorCode = some code
  | none => updated.lastErrorCode = operation.lastErrorCode ∨ updated.lastErrorCode ∈ workerCodes

/-- The columns take what the evidence brings. -/
def Evidence.Fits : Evidence → Prop
  | .placed target => Sql.FitsInteger target.vmid ∧ Sql.FitsText target.node
  | .polled (.ok status) => status.status = .failed → Sql.FitsVarchar 100 (failureCode status)
  | .outcome (.ok result) => ∀ task ∈ result.task?, Sql.FitsVarchar 255 task.taskId
  | _ => True

instance : DecidablePred Evidence.Fits := fun evidence => by
  unfold Evidence.Fits
  split <;> infer_instance

/-- The changes move the operation from `position` as the machine allows. -/
def Changes.Refines (changes : Changes) (evidence : Evidence) (position : Position)
    (operation : Operation) (vm : VirtualMachine) (target : Position) : Prop :=
  ∃ change, Advance evidence position target change ∧ target.Matches changes.operation ∧
    operation.SameIdentity changes.operation ∧ changes.vm = change.write vm ∧
    evidence.KeepsTask operation changes.operation target ∧
    evidence.KeepsCode operation changes.operation

/-! ## The transactions as row functions -/

namespace Stage

/-- The rows after the dispatch marker was stored. -/
def prepared (stage : Stage) (stamp : Time) (operation : Operation) (vm : VirtualMachine) :
    Changes where
  operation := { operation with
    status := .processing
    phase := some stage.dispatchPhase
    attempts := operation.attempts + 1
    updatedAt := stamp }
  vm := stage.markChange.write vm

/-- The row after the stage was confirmed. -/
def completed (stage : Stage) (operation : Operation) : Operation :=
  match stage.next with
  | some later => { operation with
      status := .pending, phase := later.pendingPhase, providerTaskId := none,
      lastErrorCode := none }
  | none => { operation with
      status := .succeeded, phase := some "complete", providerTaskId := none,
      lastErrorCode := none }

/-- The rows after a poll of the task. -/
def polled (stage : Stage) (stamp : Time) (operation : Operation) (vm : VirtualMachine)
    (answer : Except Error ProviderTaskStatus) : Changes :=
  let phase := if stage.endsBackoff then some stage.taskPhase else operation.phase
  match answer with
  | .error _ =>
      operation.failedWith stage.backoffPhase "provider_status_unavailable" stamp
  | .ok status =>
      match status.status with
      | .running => { operation := { operation with
          phase := phase
          lastErrorCode := if stage.clearsError then none else operation.lastErrorCode
          updatedAt := stamp } }
      | .succeeded =>
          { operation := stage.completed operation, vm := stage.pollChange.write vm }
      | .failed => {
          operation := { operation with
            status := .failed
            phase := if stage = start then operation.phase else phase
            lastErrorCode := some (failureCode status) }
          vm := stage.failChange.write vm }

/-- The row of a stage whose outcome is not confirmed. -/
def unknownOutcome (stage : Stage) (stamp : Time) (operation : Operation) : Operation :=
  { operation with
    phase := some (stage.reviewPhase.getD stage.reconcilePhase)
    lastErrorCode := some "provider_outcome_unknown"
    updatedAt := stamp }

/-- The rows after a read of the power state. -/
def reconciled (stage : Stage) (stamp : Time) (operation : Operation) (vm : VirtualMachine)
    (answer : Except Error ProviderVmState) : Changes :=
  match answer with
  | .error _ =>
      operation.failedWith stage.reconcilePhase "provider_status_unavailable" stamp
  | .ok state =>
      if stage.Confirms state then
        { operation := stage.completed operation, vm := stage.doneChange.write vm }
      else
        { operation := stage.unknownOutcome stamp operation }

/-- The dispatch of a stage. -/
def dispatch (stage : Stage) (operation : Operation) (request : Option CreateVmRequest)
    (target : ProviderPlacement) : Dispatch :=
  match stage with
  | clone => .create operation.id operation.virtualMachineId "clone" request target
  | configure => .create operation.id operation.virtualMachineId "configure" request target
  | resize => .create operation.id operation.virtualMachineId "resize" request target
  | initialStart => .create operation.id operation.virtualMachineId "start" request target
  | start => .start operation.id operation.virtualMachineId target
  | shutdown => .lifecycle operation.id operation.virtualMachineId "shutdown" target
  | stop => .lifecycle operation.id operation.virtualMachineId "stop" target
  | delete => .lifecycle operation.id operation.virtualMachineId "delete" target
  | rebootShutdown => .lifecycle operation.id operation.virtualMachineId "shutdown" target
  | rebootStart => .lifecycle operation.id operation.virtualMachineId "start" target

/-- The row after the task of the sent command was stored. -/
def withTask (stage : Stage) (operation : Operation) (task : ProviderTask) : Operation :=
  { operation with
    providerTaskId := some task.taskId, phase := some stage.taskPhase, lastErrorCode := none }

/-- The rows after the reply of the sent command, if the transaction accepts it. -/
def replied (stage : Stage) (stamp : Time) (operation : Operation) (vm : VirtualMachine)
    (target : ProviderPlacement) : Reply → Option Changes
  | .task task =>
      if task.node = target.node ∧ task.vmid = target.vmid then
        some { operation := stage.withTask operation task, vm := stage.taskChange.write vm }
      else none
  | .done => some { operation := stage.completed operation, vm := stage.doneChange.write vm }
  | .inProgress => some {
      operation := stage.unknownOutcome stamp operation
      vm := stage.taskChange.write vm }

end Stage

/-- The rows after the result of a call for the stage `dispatched`, if the storing
transaction which finds the operation at this position accepts it. -/
def Position.replied (position : Position) (dispatched : Stage) (stamp : Time)
    (operation : Operation) (vm : VirtualMachine) (target : ProviderPlacement)
    (result : ProviderResult) : Option Changes :=
  match position with
  | .dispatching current =>
      if dispatched.Shares current then
        (current.reply result).bind (current.replied stamp operation vm target)
      else none
  | .reconciling current =>
      if dispatched.Shares current ∧ current.AcceptsLateTask then
        match current.reply result with
        | some (.task task) => current.replied stamp operation vm target (.task task)
        | _ => none
      else none
  | _ => none

/-- The rows after a call for the stage `dispatched` raised. -/
def Position.raised (position : Position) (dispatched : Stage) (stamp : Time)
    (operation : Operation) : Option Changes :=
  match position with
  | .dispatching current =>
      if dispatched.Shares current then
        some (operation.failedWith current.reconcilePhase "provider_submit_unknown" stamp)
      else none
  | _ => none

end NpdPortal
