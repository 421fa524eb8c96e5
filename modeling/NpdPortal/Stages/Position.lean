import Mathlib.Data.Fintype.Basic
import NpdPortal.Worker.System

/-!
# Stages and positions

The abstract view of an operation row.  An operation passes through the stages
of its type; its position says what the worker is doing with the current
stage.  `Position.Matches` connects a position to the status, the phase string
and the task id which the row stores for it.
-/

namespace NpdPortal

/-- A stage of an operation: one command to the provider. -/
inductive Stage where
  | clone
  | configure
  | resize
  | initialStart
  | start
  | shutdown
  | stop
  | delete
  | rebootShutdown
  | rebootStart
  deriving DecidableEq, Repr

namespace Stage

instance : Fintype Stage where
  elems := {clone, configure, resize, initialStart, start, shutdown, stop, delete,
    rebootShutdown, rebootStart}
  complete stage := by cases stage <;> decide

/-- The operation type a stage belongs to. -/
def operationType : Stage → OperationType
  | clone | configure | resize | initialStart => .vmCreate
  | start => .vmStart
  | shutdown => .vmShutdown
  | stop => .vmStop
  | delete => .vmDelete
  | rebootShutdown | rebootStart => .vmReboot

/-- The phase of a row waiting for the dispatch of the stage. -/
def pendingPhase : Stage → Option String
  | clone => some "clone"
  | configure => some "configure"
  | resize => some "resize"
  | initialStart => some "start"
  | start | shutdown | stop | delete => none
  | rebootShutdown => some "shutdown"
  | rebootStart => some "start"

/-- The dispatch marker. -/
def dispatchPhase : Stage → String
  | clone => "dispatch_create_clone"
  | configure => "dispatch_create_configure"
  | resize => "dispatch_create_resize"
  | initialStart => "dispatch_create_start"
  | start => "dispatching"
  | shutdown => "dispatch_shutdown"
  | stop => "dispatch_stop"
  | delete => "dispatch_delete"
  | rebootShutdown => "dispatch_reboot_shutdown"
  | rebootStart => "dispatch_reboot_start"

/-- The marker of an outcome that is still unknown. -/
def reconcilePhase : Stage → String
  | clone => "reconcile_create_clone"
  | configure => "reconcile_create_configure"
  | resize => "reconcile_create_resize"
  | initialStart => "reconcile_create_start"
  | start => "reconcile"
  | shutdown => "reconcile_shutdown"
  | stop => "reconcile_stop"
  | delete => "reconcile_delete"
  | rebootShutdown => "reconcile_reboot_shutdown"
  | rebootStart => "reconcile_reboot_start"

/-- The phase of a row whose provider task is polled. -/
def taskPhase : Stage → String
  | clone => "clone"
  | configure => "configure"
  | resize => "resize"
  | initialStart => "start"
  | start | shutdown | stop | delete => "await_task"
  | rebootShutdown => "shutdown"
  | rebootStart => "start"

/-- The phase after a poll that raised. -/
def backoffPhase : Stage → String
  | clone => "poll_backoff_create_clone"
  | configure => "poll_backoff_create_configure"
  | resize => "poll_backoff_create_resize"
  | initialStart => "poll_backoff_create_start"
  | start | shutdown | stop | delete => "poll_backoff"
  | rebootShutdown => "poll_backoff_shutdown"
  | rebootStart => "poll_backoff_start"

/-- The phase that waits for an operator; only two stages have one. -/
def reviewPhase : Stage → Option String
  | configure => some "needs_review_create_configure"
  | resize => some "needs_review_create_resize"
  | _ => none

/-- The stage after this one. -/
def next : Stage → Option Stage
  | clone => some configure
  | configure => some resize
  | resize => some initialStart
  | rebootShutdown => some rebootStart
  | _ => none

/-- The place of a stage in its operation. -/
def index : Stage → ℕ
  | configure | rebootStart => 1
  | resize => 2
  | initialStart => 3
  | _ => 0

end Stage

/-- What the worker is doing with an operation. -/
inductive Position where
  /-- The stage is to be dispatched. -/
  | pending (stage : Stage)
  /-- The dispatch marker is stored. -/
  | dispatching (stage : Stage)
  /-- The outcome of the command is unknown. -/
  | reconciling (stage : Stage)
  /-- The task of the stage is polled; `backoff` after a poll that raised. -/
  | polling (stage : Stage) (backoff : Bool)
  /-- The stage waits for an operator. -/
  | review (stage : Stage)
  | succeeded (operationType : OperationType)
  | failed (stage : Stage)
  deriving DecidableEq, Repr

instance : Fintype OperationType where
  elems := {.vmCreate, .vmStart, .vmShutdown, .vmStop, .vmReboot, .vmDelete}
  complete operationType := by cases operationType <;> decide

namespace Position

/-- A property of positions is decided at every stage and type. -/
instance {motive : Position → Prop} [DecidablePred motive] :
    Decidable (∀ position, motive position) :=
  decidable_of_iff ((∀ stage, motive (pending stage)) ∧ (∀ stage, motive (dispatching stage)) ∧
    (∀ stage, motive (reconciling stage)) ∧ (∀ stage backoff, motive (polling stage backoff)) ∧
    (∀ stage, motive (review stage)) ∧ (∀ operationType, motive (succeeded operationType)) ∧
    ∀ stage, motive (failed stage)) <| by
      constructor
      · rintro ⟨atPending, atDispatching, atReconciling, atPolling, atReview, atSucceeded,
          atFailed⟩ position
        cases position with
        | pending stage => exact atPending stage
        | dispatching stage => exact atDispatching stage
        | reconciling stage => exact atReconciling stage
        | polling stage backoff => exact atPolling stage backoff
        | review stage => exact atReview stage
        | succeeded operationType => exact atSucceeded operationType
        | failed stage => exact atFailed stage
      · intro everywhere
        exact ⟨fun _ => everywhere _, fun _ => everywhere _, fun _ => everywhere _,
          fun _ _ => everywhere _, fun _ => everywhere _, fun _ => everywhere _,
          fun _ => everywhere _⟩

/-- The type of the operations at a position. -/
def operationType : Position → OperationType
  | pending stage | dispatching stage | reconciling stage | polling stage _ | review stage
  | failed stage => stage.operationType
  | succeeded operationType => operationType

/-- The stored status at a position. -/
def status : Position → OperationStatus
  | pending _ => .pending
  | dispatching _ | reconciling _ | polling _ _ | review _ => .processing
  | succeeded _ => .succeeded
  | failed _ => .failed

/-- The phases which may be stored at a position. -/
def phases : Position → List (Option String)
  | pending stage => [stage.pendingPhase]
  | dispatching stage => [some stage.dispatchPhase]
  | reconciling stage => [some stage.reconcilePhase]
  | polling stage false => [some stage.taskPhase]
  | polling stage true => [some stage.backoffPhase]
  | review stage => (stage.reviewPhase.map some).toList
  | succeeded _ => [some "complete"]
  | failed stage => [some stage.taskPhase, some stage.backoffPhase]

/-- Every phase fits its column. -/
theorem phases_fit : ∀ position : Position, ∀ phase ∈ position.phases, ∀ text ∈ phase,
    Sql.FitsVarchar 32 text := by
  decide +kernel

/-- A provider task is stored at this position. -/
def hasTask : Position → Bool
  | polling _ _ | failed _ => true
  | _ => false

/-- The row stores this position. -/
structure Matches (position : Position) (operation : Operation) : Prop where
  operationType : operation.operationType = position.operationType
  status : operation.status = position.status
  phase : operation.phase ∈ position.phases
  task : operation.providerTaskId.isSome = position.hasTask

/-- The operation has ended. -/
def Terminal : Position → Prop
  | succeeded _ | failed _ => True
  | _ => False

instance : DecidablePred Terminal := fun position => by
  cases position <;> unfold Terminal <;> infer_instance

/-- The place of the current stage; an operation that succeeded is past its last one. -/
def stageIndex : Position → ℕ
  | pending stage | dispatching stage | reconciling stage | polling stage _ | review stage
  | failed stage => stage.index
  | succeeded .vmCreate => 4
  | succeeded .vmReboot => 2
  | succeeded _ => 1

/-- The worker selects an operation at this position sooner or later. -/
def Processed : Position → Prop
  | pending _ | dispatching _ | reconciling _ | polling _ _ => True
  | _ => False

end Position

/-- The position after a stage has been confirmed. -/
def Stage.after (stage : Stage) : Position :=
  match stage.next with
  | some later => .pending later
  | none => .succeeded stage.operationType

end NpdPortal
