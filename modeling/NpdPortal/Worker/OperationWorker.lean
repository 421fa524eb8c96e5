import NpdPortal.Portal.Operations

/-!
# The operation worker

`run_once` of `workers/operation_worker.py` in its three parts: the selecting
transaction, the provider call after its commit, and the transaction which
stores the outcome.
-/

namespace NpdPortal

open PyString

/-- `DISPATCH_GRACE`, five minutes. -/
def dispatchGrace : Time := 5 * 60 * 1000000

/-- `RECONCILE_DELAY`, ten seconds. -/
def reconcileDelay : Time := 10 * 1000000

/-! ## The selection -/

/-- The `WHERE` clause of the selecting query. -/
def selectionCondition (now : Time) (operation : Operation) : Sql.Truth :=
  Sql.and (some (decide (operation.operationType ∈
      [OperationType.vmCreate, .vmStart, .vmShutdown, .vmStop, .vmReboot, .vmDelete])))
    (Sql.and (some (decide (operation.status ∈ [OperationStatus.pending, .processing])))
      (Sql.or (some (decide (operation.status = .pending)))
        (Sql.or (Sql.and (Sql.like operation.phase "dispatch%")
            (some (decide (operation.updatedAt ≤ now - dispatchGrace))))
          (Sql.or (Sql.and (Sql.like operation.phase "reconcile%")
              (some (decide (operation.updatedAt ≤ now - reconcileDelay))))
            (Sql.or (Sql.and (Sql.like operation.phase "poll_backoff%")
                (some (decide (operation.updatedAt ≤ now - reconcileDelay))))
              (Sql.and (some operation.providerTaskId.isSome)
                (Sql.or (some operation.phase.isNone)
                  (Sql.not (Sql.like operation.phase "poll_backoff%")))))))))

/-- The row satisfies the selection at `now`. -/
def Operation.Eligible (now : Time) (operation : Operation) : Prop :=
  (selectionCondition now operation).selects = true

instance (now : Time) (operation : Operation) : Decidable (operation.Eligible now) :=
  inferInstanceAs (Decidable (_ = true))

/-- The query may return this row: `ORDER BY updated_at LIMIT 1` over the eligible
rows, without those which other transactions hold locked. -/
structure Selects (now : Time) (locked : List Uuid) (db : Database) (operation : Operation) :
    Prop where
  stored : operation ∈ db.operations
  unlocked : operation.id ∉ locked
  eligible : operation.Eligible now
  oldest : ∀ other ∈ db.operations, other.id ∉ locked → other.Eligible now →
    operation.updatedAt ≤ other.updatedAt

theorem selects_iff (now : Time) (locked : List Uuid) (db : Database) (operation : Operation) :
    Selects now locked db operation ↔
      operation ∈ db.operations ∧ operation.id ∉ locked ∧ operation.Eligible now ∧
        ∀ other ∈ db.operations, other.id ∉ locked → other.Eligible now →
          operation.updatedAt ≤ other.updatedAt :=
  ⟨fun ⟨a, b, c, d⟩ => ⟨a, b, c, d⟩, fun ⟨a, b, c, d⟩ => ⟨a, b, c, d⟩⟩

instance (now : Time) (locked : List Uuid) (db : Database) (operation : Operation) :
    Decidable (Selects now locked db operation) :=
  decidable_of_iff _ (selects_iff now locked db operation).symm

/-! ## The selecting transaction -/

/-- What `run_once` keeps in its local variables after the selecting commit. -/
inductive Dispatch where
  | create (operationId vmId : Uuid) (phase : String) (request : Option CreateVmRequest)
      (target : ProviderPlacement)
  | start (operationId vmId : Uuid) (target : ProviderPlacement)
  | lifecycle (operationId vmId : Uuid) (command : String) (target : ProviderPlacement)
  deriving DecidableEq, Repr

/-- The operation a dispatch was made for. -/
def Dispatch.operationId : Dispatch → Uuid
  | .create id .. => id
  | .start id .. => id
  | .lifecycle id .. => id

/-- The row an exception handler leaves behind. -/
def Operation.failedWith (operation : Operation) (phase : String) (code : String)
    (stamp : Time) : Changes where
  operation := { operation with
    phase := some phase, lastErrorCode := some code, updatedAt := stamp }

/-- The prefix test `(operation.phase or "").startswith(head)`. -/
def Operation.phaseStartswith (operation : Operation) (head : String) : Bool :=
  startswith (operation.phase.getD "") head

/-- `operation.phase.removeprefix(head)` when the phase has the prefix. -/
def Operation.stripPhase (operation : Operation) (head : String) : Operation :=
  if operation.phaseStartswith head then
    { operation with phase := operation.phase.map fun phase => removeprefix phase head }
  else operation

/-- `operation.phase.replace("dispatch_", "reconcile_", 1)`. -/
def Operation.reconcilePhase (operation : Operation) : String :=
  replace1 (operation.phase.getD "") "dispatch_" "reconcile_"

def dispatchCreate (stamp : Time) (db : Database) (operation : Operation) :
    Txn (Changes × Option Dispatch) := do
  let (changes, request, target) ← prepareCreateVmDispatch stamp db operation
  pure (changes, some (.create operation.id operation.virtualMachineId
    (operation.phase.getD "") request target))

/-- The branch of `run_once` for `vm.create`. -/
def runCreate (stamp : Time) (db : Database) (operation : Operation) :
    Txn (Changes × Option Dispatch) :=
  let unsupported := .runtimeError ("unsupported create phase: " ++ phaseText operation.phase)
  if operation.status = .pending then
    if operation.phase = some "clone" then do
      let vm ← found (db.virtualMachine? operation.virtualMachineId)
        (.runtimeError "virtual machine is missing")
      if vm.providerNode = none ∧ vm.providerVmid = none then
        -- Choosing the placement does not change anything at the provider.
        let changes ← processCreateVmOperation stamp db operation
        pure (changes, none)
      else
        dispatchCreate stamp db operation
    else if operation.phase = some "configure" ∨ operation.phase = some "resize" ∨
        operation.phase = some "start" then
      dispatchCreate stamp db operation
    else
      Program.raise unsupported
  else if operation.providerTaskId ≠ none then do
    let operation := operation.stripPhase "poll_backoff_create_"
    let changes ← (processCreateVmOperation stamp db operation).tryCatch fun _ =>
      pure (operation.failedWith ("poll_backoff_create_" ++ phaseText operation.phase)
        "provider_status_unavailable" stamp)
    pure (changes, none)
  else if operation.phaseStartswith "dispatch_create_" ∨
      operation.phaseStartswith "reconcile_create_" then do
    let changes ← (reconcileCreateVmOperation stamp db operation).tryCatch fun _ =>
      pure (operation.failedWith operation.reconcilePhase "provider_status_unavailable" stamp)
    pure (changes, none)
  else
    Program.raise unsupported

/-- The branch of `run_once` for `vm.start`. -/
def runStart (stamp : Time) (db : Database) (operation : Operation) :
    Txn (Changes × Option Dispatch) :=
  if operation.status = .pending then do
    let (changes, target) ← prepareStartVmDispatch stamp db operation
    pure (changes, some (.start operation.id operation.virtualMachineId target))
  else if operation.providerTaskId ≠ none then do
    let changes ← (processStartVmOperation stamp db operation).tryCatch fun _ =>
      pure (operation.failedWith "poll_backoff" "provider_status_unavailable" stamp)
    pure (changes, none)
  else if operation.phase = some "dispatching" ∨ operation.phase = some "reconcile" then do
    let changes ← (reconcileStartVmOperation stamp db operation).tryCatch fun _ =>
      pure (operation.failedWith "reconcile" "provider_status_unavailable" stamp)
    pure (changes, none)
  else
    Program.raise
      (.runtimeError ("unsupported VM start phase: " ++ phaseText operation.phase))

/-- The branch of `run_once` for the other lifecycle types. -/
def runLifecycle (stamp : Time) (db : Database) (operation : Operation) :
    Txn (Changes × Option Dispatch) :=
  if operation.status = .pending then do
    let (changes, command, target) ← prepareLifecycleDispatch stamp db operation
    pure (changes, some (.lifecycle operation.id operation.virtualMachineId command target))
  else if operation.providerTaskId ≠ none then do
    let operation := if operation.operationType = .vmReboot
      then operation.stripPhase "poll_backoff_" else operation
    let poll := match operation.operationType with
      | .vmShutdown | .vmStop => processPowerOffVmOperation stamp db operation
      | .vmReboot => processRebootVmOperation stamp db operation
      | _ => processDeleteVmOperation stamp db operation
    let changes ← poll.tryCatch fun _ =>
      pure (operation.failedWith
        (if operation.operationType = .vmReboot
          then "poll_backoff_" ++ phaseText operation.phase else "poll_backoff")
        "provider_status_unavailable" stamp)
    pure (changes, none)
  else if operation.phaseStartswith "dispatch_" ∨ operation.phaseStartswith "reconcile_" then do
    let changes ← (reconcileLifecycleOperation stamp db operation).tryCatch fun _ =>
      pure (operation.failedWith operation.reconcilePhase "provider_status_unavailable" stamp)
    pure (changes, none)
  else
    Program.raise
      (.runtimeError ("unsupported lifecycle phase: " ++ phaseText operation.phase))

/-- The body of the selecting transaction for the selected row. -/
def runSelected (stamp : Time) (db : Database) (operation : Operation) :
    Txn (Changes × Option Dispatch) :=
  match operation.operationType with
  | .vmCreate => runCreate stamp db operation
  | .vmStart => runStart stamp db operation
  | .vmShutdown | .vmStop | .vmReboot | .vmDelete => runLifecycle stamp db operation

/-! ## The provider call -/

/-- The provider call of a dispatch, outside any transaction. -/
def Dispatch.submit : Dispatch → Txn ProviderResult
  | .create _ vmId phase request target =>
      -- Without a request the adapter itself fails on the missing object.
      let given := found request (.provider "request is missing")
      if phase = "clone" then do
        let request ← given
        let result ← Adapter.cloneVm request target
        pure (.clone result)
      else if phase = "configure" then do
        let request ← given
        let task ← Adapter.configureVm request target
        pure (.task task)
      else if phase = "resize" then do
        let request ← given
        let task ← Adapter.resizeVmDisk request target
        pure (.task task)
      else if phase = "start" then do
        let task ← Adapter.startVm vmId target
        pure (.task task)
      else
        Program.raise (.runtimeError ("unsupported create dispatch phase: " ++ phase))
  | .start _ vmId target => do
      let task ← Adapter.startVm vmId target
      pure (.task task)
  | .lifecycle _ vmId command target =>
      if command = "shutdown" then do
        let task ← Adapter.shutdownVm vmId target
        pure (.task task)
      else if command = "stop" then do
        let task ← Adapter.stopVm vmId target
        pure (.task task)
      else if command = "start" then do
        let task ← Adapter.startVm vmId target
        pure (.task task)
      else if command = "delete" then do
        let result ← Adapter.deleteVm vmId target
        pure (.delete result)
      else
        Program.raise (.runtimeError ("unsupported lifecycle command: " ++ command))

/-! ## The storing transaction -/

/-- The transaction after a call that returned. -/
def storeResult (stamp : Time) (db : Database) (dispatch : Dispatch) (result : ProviderResult) :
    Except Error Changes :=
  match dispatch with
  | .create id _ phase _ _ => do
      let operation ← found (db.operation? id) (.runtimeError "VM create operation disappeared")
      finishCreateVmDispatch stamp db operation phase result
  | .start id _ _ => do
      let operation ← found (db.operation? id) (.runtimeError "VM start operation disappeared")
      match result with
      | .task task => finishStartVmDispatch db operation task
      | _ => throw (.runtimeError "invalid provider task result")
  | .lifecycle id _ _ _ => do
      let operation ← found (db.operation? id) (.runtimeError "lifecycle operation disappeared")
      finishLifecycleDispatch stamp db operation result

/-- The transaction after a call that raised. -/
def storeUnknown (stamp : Time) (db : Database) (dispatch : Dispatch) : Except Error Changes :=
  match dispatch with
  | .create id _ phase _ _ => do
      let operation ← found (db.operation? id) (.runtimeError "VM create operation disappeared")
      require (operation.status = .processing ∧
          operation.phase = some ("dispatch_create_" ++ phase))
        (.runtimeError "VM create operation changed during dispatch")
      pure (operation.failedWith ("reconcile_create_" ++ phase) "provider_submit_unknown" stamp)
  | .start id _ _ => do
      let operation ← found (db.operation? id) (.runtimeError "VM start operation disappeared")
      require (operation.status = .processing ∧ operation.phase = some "dispatching")
        (.runtimeError "VM start operation changed during dispatch")
      pure (operation.failedWith "reconcile" "provider_submit_unknown" stamp)
  | .lifecycle id _ _ _ => do
      let changed := .runtimeError "lifecycle operation changed during dispatch"
      let operation ← found (db.operation? id) changed
      -- A phase that is NULL has no `startswith`, which raises as well.
      require (operation.phase.isSome ∧ operation.phaseStartswith "dispatch_") changed
      pure (operation.failedWith operation.reconcilePhase "provider_submit_unknown" stamp)

/-- What the worker stores for the outcome of its provider call. -/
def storeOutcome (stamp : Time) (db : Database) (dispatch : Dispatch)
    (outcome : Except Error ProviderResult) : Except Error Changes :=
  match outcome with
  | .ok result => storeResult stamp db dispatch result
  | .error _ => storeUnknown stamp db dispatch

/-! ## The commit -/

/-- `onupdate=func.now()`: an UPDATE that does not set `updated_at` sets it to the
time of the transaction; without a changed column there is no UPDATE. -/
def Operation.onUpdate (before after : Operation) (dbNow : Time) : Operation :=
  if after = before then after
  else if after.updatedAt = before.updatedAt then { after with updatedAt := dbNow }
  else after

/-- The rows of `virtual_machines` after the transaction has written a VM, if it has. -/
def Database.writeVm (db : Database) : Option VirtualMachine → List VirtualMachine
  | none => db.virtualMachines
  | some vm => KeyedRows.replace VirtualMachine.id vm db.virtualMachines

/-- Write the changed rows and commit. -/
def Database.flush (db : Database) (dbNow : Time) (before : Operation) (changes : Changes) :
    Option Database :=
  Database.commit { db.toTables with
    operations := KeyedRows.replace Operation.id (before.onUpdate changes.operation dbNow)
      db.operations
    virtualMachines := db.writeVm changes.vm }

end NpdPortal
