import Mathlib.Tactic.Linarith
import NpdPortal.Stages.Advancing

/-!
# Which positions the worker selects

The `LIKE` patterns of the selecting query are evaluated at every position: a
row is selected exactly when its position is to be processed and the waiting
time of its phase is over.
-/

namespace NpdPortal

/-- The last update after which a row at this position may be selected. -/
def Position.Due (position : Position) (now updatedAt : Time) : Prop :=
  match position with
  | .pending _ | .polling _ false => True
  | .dispatching _ => updatedAt ≤ now - dispatchGrace
  | .reconciling _ | .polling _ true => updatedAt ≤ now - reconcileDelay
  | .review _ | .succeeded _ | .failed _ => False

section Patterns

variable (stage : Stage)

theorem like_dispatchPhase :
    Sql.like (some stage.dispatchPhase) "dispatch%" = some true ∧
    Sql.like (some stage.dispatchPhase) "reconcile%" = some false ∧
    Sql.like (some stage.dispatchPhase) "poll_backoff%" = some false := by
  revert stage
  decide

theorem like_reconcilePhase :
    Sql.like (some stage.reconcilePhase) "dispatch%" = some false ∧
    Sql.like (some stage.reconcilePhase) "reconcile%" = some true ∧
    Sql.like (some stage.reconcilePhase) "poll_backoff%" = some false := by
  revert stage
  decide

theorem like_taskPhase : Sql.like (some stage.taskPhase) "poll_backoff%" = some false := by
  revert stage
  decide

theorem like_backoffPhase :
    Sql.like (some stage.backoffPhase) "dispatch%" = some false ∧
    Sql.like (some stage.backoffPhase) "reconcile%" = some false ∧
    Sql.like (some stage.backoffPhase) "poll_backoff%" = some true := by
  revert stage
  decide

theorem like_reviewPhase {phase : String} (reviewed : stage.reviewPhase = some phase) :
    Sql.like (some phase) "dispatch%" = some false ∧
    Sql.like (some phase) "reconcile%" = some false ∧
    Sql.like (some phase) "poll_backoff%" = some false := by
  cases stage <;> simp only [Stage.reviewPhase, Option.some.injEq, reduceCtorEq] at reviewed <;>
    subst reviewed <;> decide

end Patterns

section Eligibility

variable {operation : Operation} {position : Position} {now : Time}

/-- The condition of the query without the two membership tests, which every row
of an active operation passes. -/
theorem eligible_iff : operation.Eligible now ↔ operation.Active ∧
    (operation.status = .pending ∨
      (Sql.like operation.phase "dispatch%" = some true ∧
        operation.updatedAt ≤ now - dispatchGrace) ∨
      (Sql.like operation.phase "reconcile%" = some true ∧
        operation.updatedAt ≤ now - reconcileDelay) ∨
      (Sql.like operation.phase "poll_backoff%" = some true ∧
        operation.updatedAt ≤ now - reconcileDelay) ∨
      (operation.providerTaskId.isSome ∧
        (operation.phase = none ∨ Sql.like operation.phase "poll_backoff%" = some false))) := by
  have everyType : operation.operationType ∈
      [OperationType.vmCreate, .vmStart, .vmShutdown, .vmStop, .vmReboot, .vmDelete] := by
    cases operation.operationType <;> simp
  have negation : (Sql.not (Sql.like operation.phase "poll_backoff%")).selects = true ↔
      Sql.like operation.phase "poll_backoff%" = some false := by
    rcases Sql.like operation.phase "poll_backoff%" with _ | _ | _ <;> decide
  have selects_iff : ∀ truth : Sql.Truth, truth.selects = true ↔ truth = some true := by
    intro truth
    rcases truth with _ | _ | _ <;> decide
  unfold Operation.Eligible selectionCondition
  simp only [Sql.selects_and, Sql.selects_or, Bool.and_eq_true, Bool.or_eq_true, negation]
  simp [selects_iff, everyType, Operation.Active]

/-- When the query selects a row at a known position. -/
theorem Position.Matches.eligible_iff_due (atPosition : position.Matches operation) :
    operation.Eligible now ↔ position.Due now operation.updatedAt := by
  have status := atPosition.status
  have phase := atPosition.phase
  have task := atPosition.task
  rw [eligible_iff]
  cases position with
  | pending stage => simp [status, Position.status, Operation.Active, Position.Due]
  | dispatching stage =>
      rcases like_dispatchPhase stage with ⟨isDispatch, notReconcile, notBackoff⟩
      have noTask := atPosition.providerTaskId_eq_none rfl
      simp [status, Position.status, Operation.Active, Position.Due, noTask, isDispatch,
        notReconcile, notBackoff, atPosition.phase_of_dispatching]
  | reconciling stage =>
      rcases like_reconcilePhase stage with ⟨notDispatch, isReconcile, notBackoff⟩
      have noTask := atPosition.providerTaskId_eq_none rfl
      simp [status, Position.status, Operation.Active, Position.Due, noTask, notDispatch,
        isReconcile, notBackoff, atPosition.phase_of_reconciling]
  | polling stage backoff =>
      cases backoff with
      | false =>
          have notBackoff := like_taskPhase stage
          have stored := atPosition.phase_of_polling
          simp only [Bool.false_eq_true, if_false] at stored
          simp [status, Position.status, Operation.Active, Position.Due, task, Position.hasTask,
            notBackoff, stored]
      | true =>
          rcases like_backoffPhase stage with ⟨notDispatch, notReconcile, isBackoff⟩
          have stored := atPosition.phase_of_polling
          simp only [if_true] at stored
          simp [status, Position.status, Operation.Active, Position.Due, notDispatch,
            notReconcile, isBackoff, stored]
  | review stage =>
      simp only [Position.phases, Option.mem_toList, Option.map_eq_some_iff] at phase
      rcases phase with ⟨text, reviewed, stored⟩
      rcases like_reviewPhase stage reviewed with ⟨notDispatch, notReconcile, notBackoff⟩
      have noTask := atPosition.providerTaskId_eq_none rfl
      simp [status, Position.status, Operation.Active, Position.Due, noTask, notDispatch,
        notReconcile, notBackoff, ← stored]
  | succeeded operationType => simp [status, Position.status, Operation.Active, Position.Due]
  | failed stage => simp [status, Position.status, Operation.Active, Position.Due]

/-- A selected row is at a position that the worker processes. -/
theorem Position.Matches.processed_of_eligible (atPosition : position.Matches operation)
    (eligible : operation.Eligible now) : position.Processed := by
  have due := atPosition.eligible_iff_due.mp eligible
  cases position with
  | review stage => exact False.elim due
  | succeeded operationType => exact False.elim due
  | failed stage => exact False.elim due
  | _ => trivial

/-- Five minutes after its last update every processed row is selected. -/
theorem Position.Matches.eligible_of_processed (atPosition : position.Matches operation)
    (processed : position.Processed) (rested : operation.updatedAt + dispatchGrace ≤ now) :
    operation.Eligible now := by
  rw [atPosition.eligible_iff_due]
  have grace : reconcileDelay ≤ dispatchGrace := by decide
  cases position with
  | pending stage => trivial
  | dispatching stage =>
      simp only [Position.Due]
      linarith
  | reconciling stage =>
      simp only [Position.Due]
      linarith
  | polling stage backoff =>
      cases backoff <;> simp only [Position.Due]
      linarith
  | _ => exact False.elim processed

end Eligibility

end NpdPortal
