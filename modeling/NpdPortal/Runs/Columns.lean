import NpdPortal.Runs.LateOutcomes
import NpdPortal.Runs.Polls

/-!
# The columns `attempts` and `last_error_code`

The stage machine leaves these two columns open.  Here the rows which the
transactions of the worker write are listed with all their columns, and both
columns are determined in every reachable state: `attempts` counts the
committed dispatch markers, and the error code says what the worker knows at
the position of the operation.
-/

namespace NpdPortal

/-! ## The rows of the transactions -/

/-- The row which a transaction of the worker writes for an operation at a position. -/
inductive Rewrites (stamp : Time) (operation : Operation) (vm : VirtualMachine) :
    Position → Operation → Prop where
  /-- Only the VM row is written. -/
  | placed : Rewrites stamp operation vm (.pending .clone) operation
  | prepared (stage : Stage) :
      Rewrites stamp operation vm (.pending stage) (stage.prepared stamp operation vm).operation
  | polled (stage : Stage) (backoff : Bool) (answer : Except Error ProviderTaskStatus) :
      Rewrites stamp operation vm (.polling stage backoff)
        (stage.polled stamp operation vm answer).operation
  | reconciled (stage : Stage) (position : Position) (answer : Except Error ProviderVmState)
      (awaits : position.Awaits stage) (readable : ¬stage.NeedsReview) :
      Rewrites stamp operation vm position (stage.reconciled stamp operation vm answer).operation
  | reviewed (stage : Stage) (position : Position) (awaits : position.Awaits stage)
      (needsReview : stage.NeedsReview) :
      Rewrites stamp operation vm position (stage.unknownOutcome stamp operation)
  | replied (position : Position) (dispatched : Stage) (target : ProviderPlacement)
      (result : ProviderResult) (changes : Changes)
      (accepted : position.replied dispatched stamp operation vm target result = some changes) :
      Rewrites stamp operation vm position changes.operation
  | raised (position : Position) (dispatched : Stage) (changes : Changes)
      (accepted : position.raised dispatched stamp operation = some changes) :
      Rewrites stamp operation vm position changes.operation

section Rows

variable {db : Database} {operation : Operation} {vm : VirtualMachine} {position : Position}
  {stamp : Time}

/-- The row of a selecting transaction that does not raise. -/
theorem runSelected_rewrites {provider : Provider} {changes : Changes}
    {dispatch : Option Dispatch} (ready : Ready db operation vm position)
    (atPosition : position.Matches operation) (processed : position.Processed)
    (ran : (Program.run provider 0 (runSelected stamp db operation)).2 = .ok (changes, dispatch)) :
    Rewrites stamp operation vm position changes.operation := by
  have marks : ∀ stage target, position = .pending stage → Placed db operation vm target →
      Rewrites stamp operation vm position changes.operation := by
    intro stage target atStage isPlaced
    rcases runSelected_pending stamp isPlaced (fun _ => ready.hasKey) (atStage ▸ atPosition) with
      ⟨request, _, computed⟩
    rw [computed] at ran
    cases ran
    rw [atStage]
    exact .prepared stage
  have reconciles : ∀ stage, position.Awaits stage →
      Rewrites stamp operation vm position changes.operation := by
    intro stage awaits
    have started : position ≠ .pending .clone := by
      rcases awaits with rfl | rfl <;> simp
    rcases ready.placed_of_ne started with ⟨target, isPlaced⟩
    by_cases needsReview : stage.NeedsReview
    · rw [runSelected_needsReview stamp isPlaced atPosition awaits needsReview] at ran
      cases ran
      exact .reviewed stage position awaits needsReview
    · rw [runSelected_awaiting stamp isPlaced atPosition awaits needsReview] at ran
      cases ran
      exact .reconciled stage position _ awaits needsReview
  cases position with
  | pending stage =>
      rcases ready.placement with ⟨target, node, vmid⟩ | ⟨atClone, noNode, noVmid⟩
      · exact marks stage target rfl ⟨ready.vmStored, node, vmid⟩
      · cases atClone
        rcases runSelected_unplaced stamp ready.vmStored noNode noVmid ready.hasKey atPosition with
          ⟨request, _, computed⟩
        rw [computed, Program.run_call, Program.run_done] at ran
        cases answer : provider 0 (.chooseCloneTarget request) with
        | error error =>
            rw [answer] at ran
            cases ran
        | ok target =>
            rw [answer] at ran
            cases ran
            exact .placed
  | dispatching stage => exact reconciles stage (.inl rfl)
  | reconciling stage => exact reconciles stage (.inr rfl)
  | polling stage backoff =>
      rcases ready.placed_of_ne (by simp) with ⟨target, isPlaced⟩
      rcases runSelected_polling stamp isPlaced atPosition with ⟨taskId, task, computed⟩
      rw [computed] at ran
      cases ran
      exact .polled stage backoff _
  | review stage => exact False.elim processed
  | succeeded operationType => exact False.elim processed
  | failed stage => exact False.elim processed

/-- The row of a storing transaction that does not raise. -/
theorem storeOutcome_rewrites {before : Operation} {dispatched : Stage}
    {request : Option CreateVmRequest} {sentTo : ProviderPlacement}
    {outcome : Except Error ProviderResult} {changes : Changes}
    (stored : db.operation? before.id = some operation) (atPosition : position.Matches operation)
    (ready : ¬position.Terminal → Ready db operation vm position)
    (kind : operation.operationType = dispatched.operationType)
    (accepted : storeOutcome stamp db (dispatched.dispatch before request sentTo) outcome =
      .ok changes) :
    Rewrites stamp operation vm position changes.operation := by
  have computed : (storeOutcome stamp db (dispatched.dispatch before request sentTo)
      outcome).toOption = some changes := by
    rw [accepted]
    rfl
  cases outcome with
  | error error =>
      exact .raised position dispatched changes
        ((storeUnknown_eq stamp stored atPosition kind).symm.trans computed)
  | ok result =>
      by_cases waits : ∃ current, position.Awaits current
      · rcases waits with ⟨current, awaits⟩
        have isReady : Ready db operation vm position :=
          ready (by rcases awaits with rfl | rfl <;> exact id)
        rcases isReady.placed_of_ne (by rcases awaits with rfl | rfl <;> simp) with
          ⟨target, isPlaced⟩
        exact .replied position dispatched target result changes
          ((storeOutcome_eq stamp (.ok result) stored isPlaced atPosition kind).symm.trans
            computed)
      · have refused : (storeOutcome stamp db (dispatched.dispatch before request sentTo)
            (.ok result)).toOption = none :=
          storeResult_of_not_awaiting stamp result stored atPosition kind (not_exists.mp waits)
        rw [refused] at computed
        cases computed

end Rows

/-! ## What the columns say -/

/-- The error code which an operation has at a position.  A poll that succeeds leaves the code
of an earlier poll that raised only in the two stages of a reboot. -/
def Position.Explains : Position → Option String → Prop
  | .pending _, code | .dispatching _, code | .succeeded _, code => code = none
  | .reconciling _, code => code = some "provider_submit_unknown" ∨
      code = some "provider_status_unavailable" ∨ code = some "provider_outcome_unknown"
  | .polling _ true, code => code = some "provider_status_unavailable"
  | .polling stage false, code => code = none ∨
      stage.operationType = .vmReboot ∧ code = some "provider_status_unavailable"
  | .review _, code => code = some "provider_outcome_unknown"
  | .failed _, code => ∃ text, code = some text ∧ text ≠ ""

/-- Both columns of a row at a position. -/
structure Operation.Recorded (operation : Operation) (position : Position) : Prop where
  attempts : operation.attempts = position.marked
  code : position.Explains operation.lastErrorCode

theorem failureCode_ne_empty (status : ProviderTaskStatus) : failureCode status ≠ "" := by
  unfold failureCode
  split
  · simp
  · split
    · simp
    · assumption

theorem Stage.after_marked (stage : Stage) : stage.after.marked = stage.index + 1 := by
  cases stage <;> rfl

theorem Stage.after_explains {stage : Stage} {code : Option String} :
    stage.after.Explains code ↔ code = none := by
  cases stage <;> rfl

@[simp]
theorem Stage.completed_attempts (stage : Stage) (operation : Operation) :
    (stage.completed operation).attempts = operation.attempts := by
  unfold Stage.completed
  split <;> rfl

/-- The marker of a position that awaits its stage is counted. -/
theorem Position.Awaits.marked {position : Position} {stage : Stage}
    (awaits : position.Awaits stage) : position.marked = stage.index + 1 := by
  rcases awaits with rfl | rfl <;> rfl

section Recording

variable {operation updated : Operation} {vm : VirtualMachine} {position : Position}
  {stamp : Time}

/-- A confirmed stage leaves no error code. -/
theorem Operation.Recorded.completed {stage : Stage} (recorded : operation.Recorded position)
    (marked : position.marked = stage.index + 1) :
    (stage.completed operation).Recorded stage.after where
  attempts := by rw [Stage.completed_attempts, recorded.attempts, marked, Stage.after_marked]
  code := by rw [Stage.after_explains, Stage.completed_lastErrorCode]

theorem Stage.polled_recorded {stage : Stage} {backoff : Bool}
    (answer : Except Error ProviderTaskStatus)
    (atStage : (Position.polling stage backoff).Matches operation)
    (recorded : operation.Recorded (.polling stage backoff)) :
    ∃ reached, reached.Matches (stage.polled stamp operation vm answer).operation ∧
      (stage.polled stamp operation vm answer).operation.Recorded reached := by
  rcases Stage.polled_refines answer atStage with
    ⟨reached, change, advance, atReached, _⟩
  refine ⟨reached, atReached, ?_⟩
  have code := recorded.code
  cases advance with
  | pollRunning _ _ status running =>
      simp only [Stage.polled, running]
      refine ⟨recorded.attempts, ?_⟩
      cases stage <;> cases backoff <;>
        simp_all [Stage.clearsError, Stage.endsBackoff, Position.Explains, Stage.operationType]
  | pollSucceeded _ _ status succeeded =>
      simp only [Stage.polled, succeeded]
      exact recorded.completed rfl
  | pollFailed _ _ status failed =>
      simp only [Stage.polled, failed]
      exact ⟨recorded.attempts, _, rfl, failureCode_ne_empty status⟩
  | pollRaised _ _ error => exact ⟨recorded.attempts, rfl⟩

theorem Stage.reconciled_recorded {stage : Stage} (answer : Except Error ProviderVmState)
    (atPosition : position.Matches operation) (awaits : position.Awaits stage)
    (readable : ¬stage.NeedsReview) (recorded : operation.Recorded position) :
    ∃ reached, reached.Matches (stage.reconciled stamp operation vm answer).operation ∧
      (stage.reconciled stamp operation vm answer).operation.Recorded reached := by
  rcases Stage.reconciled_refines answer atPosition awaits
    readable with ⟨reached, change, advance, atReached, _⟩
  refine ⟨reached, atReached, ?_⟩
  have attempts : operation.attempts = stage.index + 1 :=
    recorded.attempts.trans awaits.marked
  cases advance with
  | confirmed other _ state otherAwaits confirms =>
      rcases awaits.unique otherAwaits with rfl
      simp only [Stage.reconciled, confirms, if_true]
      exact recorded.completed awaits.marked
  | unconfirmed other _ state otherAwaits notConfirms _ =>
      rcases awaits.unique otherAwaits with rfl
      simp only [Stage.reconciled, notConfirms, if_false]
      exact ⟨attempts, .inr (.inr rfl)⟩
  | readRaised other _ error otherAwaits _ =>
      rcases awaits.unique otherAwaits with rfl
      exact ⟨attempts, .inr (.inl rfl)⟩

theorem Position.replied_recorded {dispatched : Stage} {target : ProviderPlacement}
    {result : ProviderResult} {changes : Changes} (atPosition : position.Matches operation)
    (accepted : position.replied dispatched stamp operation vm target result = some changes)
    (recorded : operation.Recorded position) :
    ∃ reached : Position, reached.Matches changes.operation ∧
      changes.operation.Recorded reached := by
  rcases Position.replied_refines atPosition accepted with
    ⟨reached, change, advance, atReached, _⟩
  refine ⟨reached, atReached, ?_⟩
  cases advance with
  | storeTask stage _ _ task carries waiting =>
      rcases waiting with rfl | ⟨rfl, late⟩
      · simp only [Position.replied, carries, Option.bind_some, Stage.replied] at accepted
        split at accepted
        · split at accepted <;> cases accepted
          exact ⟨recorded.attempts, .inl rfl⟩
        · cases accepted
      · simp only [Position.replied, carries, Stage.replied] at accepted
        split at accepted
        · split at accepted <;> cases accepted
          exact ⟨recorded.attempts, .inl rfl⟩
        · cases accepted
  | storeDone stage _ done =>
      simp only [Position.replied, done, Option.bind_some, Stage.replied] at accepted
      split at accepted <;> cases accepted
      exact recorded.completed rfl
  | storeInProgress stage _ inProgress =>
      simp only [Position.replied, inProgress, Option.bind_some, Stage.replied] at accepted
      split at accepted <;> cases accepted
      exact ⟨recorded.attempts, .inr (.inr rfl)⟩

theorem Position.raised_recorded (vm : VirtualMachine) {dispatched : Stage} {changes : Changes}
    (atPosition : position.Matches operation)
    (accepted : position.raised dispatched stamp operation = some changes)
    (recorded : operation.Recorded position) :
    ∃ reached : Position, reached.Matches changes.operation ∧
      changes.operation.Recorded reached := by
  have refines : ∃ reached, changes.Refines (.outcome (.error (.runtimeError ""))) position
      operation vm reached := Position.raised_refines atPosition accepted
  rcases refines with ⟨reached, change, advance, atReached, _⟩
  refine ⟨reached, atReached, ?_⟩
  cases advance with
  | storeUnknown stage _ =>
      simp only [Position.raised] at accepted
      split at accepted <;> cases accepted
      exact ⟨recorded.attempts, .inl rfl⟩

/-- `updated_at` is no part of what is recorded. -/
theorem Operation.Recorded.onUpdate {written : Operation} {reached : Position}
    (recorded : written.Recorded reached) (before : Operation) (dbNow : Time) :
    (before.onUpdate written dbNow).Recorded reached := by
  unfold Operation.onUpdate
  split
  · exact recorded
  · split
    · exact ⟨recorded.attempts, recorded.code⟩
    · exact recorded

/-- No column that identifies an operation is written. -/
theorem Rewrites.sameIdentity (rewrites : Rewrites stamp operation vm position updated)
    (atPosition : position.Matches operation) : operation.SameIdentity updated := by
  cases rewrites with
  | placed => exact .refl operation
  | prepared stage => exact ⟨rfl, rfl, rfl, rfl⟩
  | polled stage backoff answer =>
      rcases Stage.polled_refines answer atPosition with ⟨_, refines⟩
      exact refines.identity
  | reconciled stage _ answer awaits readable =>
      rcases Stage.reconciled_refines answer atPosition awaits readable with ⟨_, refines⟩
      exact refines.identity
  | reviewed stage _ awaits needsReview => exact ⟨rfl, rfl, rfl, rfl⟩
  | replied _ dispatched target result changes accepted =>
      rcases Position.replied_refines atPosition accepted with ⟨_, refines⟩
      exact refines.identity
  | raised _ dispatched changes accepted =>
      have refines : ∃ reached, changes.Refines (.outcome (.error (.runtimeError ""))) position
          operation vm reached := Position.raised_refines atPosition accepted
      rcases refines with ⟨_, refines⟩
      exact refines.identity

/-- Every row which the worker writes has the columns of its position. -/
theorem Rewrites.recorded (rewrites : Rewrites stamp operation vm position updated)
    (atPosition : position.Matches operation) (recorded : operation.Recorded position) :
    ∃ reached : Position, reached.Matches updated ∧ updated.Recorded reached := by
  cases rewrites with
  | placed => exact ⟨_, atPosition, recorded⟩
  | prepared stage =>
      rcases Stage.prepared_refines atPosition with
        ⟨_, _, atReached, _⟩
      exact ⟨_, atReached, congrArg (· + 1) recorded.attempts, recorded.code⟩
  | polled stage backoff answer => exact Stage.polled_recorded answer atPosition recorded
  | reconciled stage _ answer awaits readable =>
      exact Stage.reconciled_recorded answer atPosition awaits readable recorded
  | reviewed stage _ awaits needsReview =>
      have refines : Changes.Refines { operation := stage.unknownOutcome stamp operation } .reviewed
          position operation vm (.review stage) :=
        Stage.reviewed_refines atPosition awaits needsReview
      rcases refines with ⟨_, _, atReached, _⟩
      exact ⟨_, atReached, recorded.attempts.trans awaits.marked, rfl⟩
  | replied _ dispatched target result changes accepted =>
      exact Position.replied_recorded atPosition accepted recorded
  | raised _ dispatched changes accepted =>
      exact Position.raised_recorded vm atPosition accepted recorded

end Recording

/-! ## Steps and runs -/

section Runs

variable {world next : World} {event : Event} {history : List Event}

/-- A selecting transaction that commits writes such a row. -/
theorem World.selectStep_rewrites (sound : world.Sound) {now stamp dbNow : Time}
    {operation updated : Operation} {provider : Provider} {exchanges : List Exchange}
    (stored : operation ∈ world.db.operations) (eligible : operation.Eligible now)
    (selecting : world.selectStep operation provider stamp dbNow =
      (.selected operation exchanges (some updated), next)) :
    ∃ vm position written, position.Matches operation ∧
      Rewrites stamp operation vm position written ∧
      next.db.operation? operation.id = some (operation.onUpdate written dbNow) := by
  rcases sound.db.ready stored with ⟨position, vm, atPosition, _, _, prepared⟩
  have processed := atPosition.processed_of_eligible eligible
  have running : ¬position.Terminal := by
    cases position <;> first | exact id | exact absurd processed id
  unfold World.selectStep at selecting
  simp only at selecting
  split at selecting
  · cases selecting
  · rename_i changes dispatch ran
    split at selecting
    · cases selecting
    · rename_i db flushed
      have rewrites := runSelected_rewrites (prepared running).1 atPosition processed ran
      have isNext : db = next.db := congrArg (fun label => label.2.db) selecting
      refine ⟨vm, position, changes.operation, atPosition, rewrites, ?_⟩
      exact isNext ▸ Database.flush_operation? stored (rewrites.sameIdentity atPosition) flushed

/-- A storing transaction that commits writes such a row. -/
theorem World.storeDatabase_rewrites (sound : world.Sound) {dispatch : Dispatch}
    {outcome : Except Error ProviderResult} {operation : Operation} {stamp dbNow : Time}
    {db : Database} (storing : Flight.storing dispatch outcome ∈ world.inFlight)
    (stored : operation ∈ world.db.operations) (isFor : dispatch.operationId = operation.id)
    (committed : World.storeDatabase world.db dispatch outcome stamp dbNow = some db) :
    ∃ vm position written, position.Matches operation ∧
      Rewrites stamp operation vm position written ∧
      db.operation? operation.id = some (operation.onUpdate written dbNow) := by
  rcases sound.flights _ storing with ⟨known, knownMem, stage, dispatchFor⟩
  obtain rfl : known = operation := KeyedRows.eq_of_key_eq world.db.valid.operationIds knownMem
    stored (dispatchFor.operationId.symm.trans isFor)
  rcases dispatchFor.made with ⟨before, request, target, made, sameBefore⟩
  simp only [Flight.dispatch] at made
  subst made
  rcases sound.db.ready stored with ⟨position, vm, atPosition, _, _, prepared⟩
  have found : world.db.operation? known.id = some known :=
    Database.operation?_eq_some_iff.mpr ⟨stored, rfl⟩
  unfold World.storeDatabase at committed
  rw [isFor, found] at committed
  cases outcomeStored : storeOutcome stamp world.db (stage.dispatch before request target)
      outcome with
  | error error =>
      rw [outcomeStored] at committed
      cases committed
  | ok changes =>
      rw [outcomeStored] at committed
      have rewrites := storeOutcome_rewrites (sameBefore ▸ found) atPosition
        (fun running => (prepared running).1) dispatchFor.kind outcomeStored
      exact ⟨vm, position, changes.operation, atPosition, rewrites,
        Database.flush_operation? stored (rewrites.sameIdentity atPosition) committed⟩

/-- A row after a step is the row before it, or a transaction of the worker wrote it. -/
theorem rewrites_of_step (sound : world.Sound) (step : portal.step world event next)
    {operation : Operation} (stored : operation ∈ world.db.operations) :
    operation ∈ next.db.operations ∨ ∃ stamp dbNow vm position written,
      position.Matches operation ∧ Rewrites stamp operation vm position written ∧
      next.db.operation? operation.id = some (operation.onUpdate written dbNow) := by
  by_cases kept : operation ∈ next.db.operations
  · exact .inl kept
  · right
    rcases (step_progress sound step).row stored with
      kept' | ⟨evidence, updated, vm, position, reached, change, moved, given⟩
    · exact absurd kept' kept
    · cases evidence with
      | outcome outcome =>
          rcases given with ⟨dispatch, rfl, isFor⟩
          rcases exists_store_of_step step with ⟨stamp, dbNow, storing, isNext⟩
          cases committed : World.storeDatabase world.db dispatch outcome stamp dbNow with
          | none =>
              rw [committed, Option.getD_none] at isNext
              exact absurd (isNext ▸ stored) kept
          | some db =>
              rw [committed, Option.getD_some] at isNext
              exact ⟨stamp, dbNow, isNext ▸
                World.storeDatabase_rewrites sound storing stored isFor committed⟩
      | _ =>
          rcases given with ⟨exchanges, rfl, _⟩
          rcases exists_select_of_step step with
            ⟨now, locked, provider, stamp, dbNow, selects, selecting⟩
          exact ⟨stamp, dbNow,
            World.selectStep_rewrites sound selects.stored selects.eligible selecting⟩

/-- The columns of an inserted row. -/
theorem Progress.columns_of_new (progress : Progress world event next) {updated : Operation}
    (stores : updated ∈ next.db.operations)
    (fresh : ∀ old ∈ world.db.operations, old.id ≠ updated.id) :
    updated.attempts = 0 ∧ updated.lastErrorCode = none := by
  have notMoved : ∀ {evidence operation moveTo vm position reached change},
      Moved world.db next.db evidence operation moveTo vm position reached change → False := by
    intro evidence operation moveTo vm position reached change moved
    rw [moved.operations, KeyedRows.mem_replace] at stores
    rcases stores with ⟨rfl, _⟩ | ⟨stores, _⟩
    · exact fresh operation moved.stored moved.identity.id.symm
    · exact fresh updated stores rfl
  cases progress with
  | created db context userId request idempotencyKey created =>
      rw [created.tables] at stores
      rcases List.mem_append.mp stores with old | new
      · exact absurd rfl (fresh updated old)
      · rcases List.mem_singleton.mp new with rfl
        exact ⟨rfl, rfl⟩
  | enqueued db context userId vmId operationType idempotencyKey vm enqueued =>
      rw [enqueued.tables] at stores
      rcases List.mem_append.mp stores with old | new
      · exact absurd rfl (fresh updated old)
      · rcases List.mem_singleton.mp new with rfl
        exact ⟨rfl, rfl⟩
  | administered db administers =>
      rw [administers.operations] at stores
      exact absurd rfl (fresh updated stores)
  | marked db operation moveTo vm stage request target moved => exact (notMoved moved).elim
  | followed db operation moveTo vm position reached change evidence exchanges _ _ moved =>
      exact (notMoved moved).elim
  | stored index dispatch outcome db operation moveTo vm position reached change _ _ moved =>
      exact (notMoved moved).elim
  | _ => exact absurd rfl (fresh updated stores)

/-- A row after a step has the columns of its position if the row before it had. -/
theorem recorded_of_step (sound : world.Sound) (step : portal.step world event next)
    {operation updated : Operation} {position : Position} (stored : operation ∈ world.db.operations)
    (stores : updated ∈ next.db.operations) (same : operation.id = updated.id)
    (atPosition : position.Matches operation) (recorded : operation.Recorded position) :
    ∃ reached : Position, reached.Matches updated ∧ updated.Recorded reached := by
  rcases rewrites_of_step sound step stored with
    kept | ⟨stamp, dbNow, vm, other, written, atOther, rewrites, found⟩
  · rcases KeyedRows.eq_of_key_eq next.db.valid.operationIds kept stores same with rfl
    exact ⟨position, atPosition, recorded⟩
  · rcases atOther.unique atPosition with rfl
    rcases rewrites.recorded atPosition recorded with ⟨reached, atReached, writes⟩
    rcases Database.operation?_eq_some_iff.mp found with ⟨foundMem, foundId⟩
    rcases KeyedRows.eq_of_key_eq next.db.valid.operationIds foundMem stores
      (foundId.trans same) with rfl
    exact ⟨reached, atReached.onUpdate dbNow, writes.onUpdate operation dbNow⟩

/-- Every row of a reachable state has the columns of its position. -/
theorem recorded_of_execution (execution : portal.Execution history world) :
    ∀ operation ∈ world.db.operations, ∃ position : Position, position.Matches operation ∧
      operation.Recorded position := by
  refine execution.invariant (motive := fun _ world => ∀ operation ∈ world.db.operations,
    ∃ position : Position, position.Matches operation ∧ operation.Recorded position) ?_ ?_
  · rintro state rfl operation operationMem
    exact absurd operationMem List.not_mem_nil
  · intro earlier state event next before recorded step updated stores
    have sound := sound_of_reachable before.reachable
    have progress := step_progress sound step
    by_cases known : ∃ operation ∈ state.db.operations, operation.id = updated.id
    · rcases known with ⟨operation, stored, same⟩
      rcases recorded operation stored with ⟨position, atPosition, columns⟩
      exact recorded_of_step sound step stored stores same atPosition columns
    · have fresh : ∀ old ∈ state.db.operations, old.id ≠ updated.id :=
        fun old oldMem same => known ⟨old, oldMem, same⟩
      rcases progress.columns_of_new stores fresh with ⟨attempts, code⟩
      rcases progress.row_after stores with
        old | ⟨_, operation, _, _, _, _, moved, _⟩ | ⟨stage, isFirst, atStage⟩
      · exact absurd rfl (fresh updated old)
      · exact absurd moved.identity.id.symm (fresh operation moved.stored)
      · exact ⟨.pending stage, atStage, attempts.trans isFirst.symm, code⟩

/-! ## Attempts and dispatch markers -/

/-- A selecting transaction that stores a dispatch marker. -/
def Event.marks (operationId : Uuid) : Event → ℕ
  | .selected operation _ (some updated) =>
      if operation.id = operationId ∧ operation.status = .pending ∧ updated.status = .processing
      then 1 else 0
  | _ => 0

theorem Event.marks_of_ne {operationId : Uuid} (other : event.operationId ≠ some operationId) :
    event.marks operationId = 0 := by
  unfold Event.marks
  split
  · refine if_neg fun marks => other ?_
    exact congrArg some marks.1
  · rfl

/-- Only a marker adds to the marked stages. -/
theorem Advance.marked_eq {evidence : Evidence} {position reached : Position} {change : VmChange}
    (advance : Advance evidence position reached change) :
    reached.marked = position.marked +
      (if position.status = .pending ∧ reached.status = .processing then 1 else 0) := by
  cases advance with
  | pollSucceeded stage => exact stage.after_marked
  | storeDone stage => exact stage.after_marked
  | confirmed stage _ _ awaits =>
      rw [awaits.marked, stage.after_marked]
      rcases awaits with rfl | rfl <;> rfl
  | unconfirmed stage _ _ awaits => rcases awaits with rfl | rfl <;> rfl
  | readRaised stage _ _ awaits => rcases awaits with rfl | rfl <;> rfl
  | review stage _ awaits => rcases awaits with rfl | rfl <;> rfl
  | storeTask stage _ _ _ _ waiting => rcases waiting with rfl | ⟨rfl, _⟩ <;> rfl
  | _ => rfl

/-- The marked stages of a moved row are those before and the marker of the step. -/
theorem Moved.marked_eq {operation updated : Operation} {evidence : Evidence}
    {vm : VirtualMachine} {position reached : Position} {change : VmChange}
    (moved : Moved world.db next.db evidence operation updated vm position reached change)
    (given : evidence.GivenBy operation updated vm event) :
    reached.marked = position.marked + event.marks operation.id := by
  have advance := moved.advance
  rw [advance.marked_eq]
  cases evidence with
  | outcome outcome =>
      rcases given with ⟨dispatch, rfl, _⟩
      have processing : position.status = .processing := by
        cases advance with
        | storeTask _ _ _ _ _ waiting => rcases waiting with rfl | ⟨rfl, _⟩ <;> rfl
        | _ => rfl
      simp [Event.marks, processing]
  | _ =>
      rcases given with ⟨exchanges, rfl, _⟩
      simp [Event.marks, moved.atPosition.status, moved.atReached.status]

/-- The row of an operation for which a marker was stored has changed. -/
theorem Progress.marks_eq_zero (progress : Progress world event next) {operation : Operation}
    (stored : operation ∈ world.db.operations) (kept : operation ∈ next.db.operations) :
    event.marks operation.id = 0 := by
  have ofMoved : ∀ {evidence other updated vm position reached change},
      Moved world.db next.db evidence other updated vm position reached change →
      evidence.GivenBy other updated vm event → event.marks operation.id = 0 := by
    intro evidence other updated vm position reached change moved given
    by_cases same : other.id = operation.id
    · rcases KeyedRows.eq_of_key_eq world.db.valid.operationIds moved.stored stored same with rfl
      rcases KeyedRows.eq_of_key_eq next.db.valid.operationIds
        (Database.operation?_eq_some_iff.mp moved.stored_updated).1 kept moved.identity.id with rfl
      have marked := moved.marked_eq given
      rw [moved.atPosition.unique moved.atReached] at marked
      omega
    · refine Event.marks_of_ne fun label => same ?_
      exact Option.some.inj (given.operationId.symm.trans label)
  cases progress with
  | marked db other updated vm stage request target moved => exact ofMoved moved ⟨[], rfl, rfl⟩
  | followed db other updated vm position reached change evidence exchanges shows _ moved =>
      exact ofMoved moved (shows.givenBy updated)
  | _ => rfl

/-- The marked stages of an operation are the committed dispatch markers. -/
theorem marks_of_execution (execution : portal.Execution history world) :
    ∀ operation ∈ world.db.operations, ∀ position : Position, position.Matches operation →
      (history.map (Event.marks operation.id)).sum = position.marked := by
  refine execution.invariant (motive := fun history world => ∀ operation ∈ world.db.operations,
    ∀ position : Position, position.Matches operation →
      (history.map (Event.marks operation.id)).sum = position.marked) ?_ ?_
  · rintro state rfl operation operationMem
    exact absurd operationMem List.not_mem_nil
  · intro earlier state event next before counted step updated stores place atPlace
    have sound := sound_of_reachable before.reachable
    have progress := step_progress sound step
    simp only [List.map_append, List.map_cons, List.map_nil, List.sum_append, List.sum_cons,
      List.sum_nil, add_zero]
    by_cases known : ∃ operation ∈ state.db.operations, operation.id = updated.id
    · rcases known with ⟨operation, stored, same⟩
      rcases progress.row stored with
        kept | ⟨evidence, moveTo, vm, position, reached, change, moved, given⟩
      · rcases KeyedRows.eq_of_key_eq next.db.valid.operationIds kept stores same with rfl
        rw [counted operation stored place atPlace, progress.marks_eq_zero stored kept, add_zero]
      · rcases KeyedRows.eq_of_key_eq next.db.valid.operationIds
          (Database.operation?_eq_some_iff.mp moved.stored_updated).1 stores
          (moved.identity.id.trans same) with rfl
        rw [atPlace.unique moved.atReached, moved.marked_eq given, same,
          ← counted operation stored position moved.atPosition, same]
    · have fresh : ∀ old ∈ state.db.operations, old.id ≠ updated.id :=
        fun old oldMem same => known ⟨old, oldMem, same⟩
      have unmarked : (earlier.map (Event.marks updated.id)).sum = 0 := by
        refine List.sum_eq_zero fun count countMem => ?_
        rcases List.mem_map.mp countMem with ⟨label, labelMem, rfl⟩
        refine Event.marks_of_ne fun isFor => ?_
        rcases (known_of_execution before).events label labelMem updated.id isFor with
          ⟨old, oldMem, same⟩
        exact fresh old oldMem same
      have silent : event.marks updated.id = 0 := by
        refine Event.marks_of_ne fun isFor => ?_
        rcases progress.label_known sound isFor with ⟨old, oldMem, same⟩
        exact fresh old oldMem same
      rw [unmarked, silent]
      rcases progress.row_after stores with
        old | ⟨_, operation, _, _, _, _, moved, _⟩ | ⟨stage, isFirst, atStage⟩
      · exact absurd rfl (fresh updated old)
      · exact absurd moved.identity.id.symm (fresh operation moved.stored)
      · rw [atPlace.unique atStage]
        exact isFirst.symm

theorem Position.marked_le (position : Position) :
    position.marked ≤ (Position.succeeded position.operationType).stageIndex := by
  cases position with
  | succeeded operationType => exact le_rfl
  | pending stage => cases stage <;> decide
  | dispatching stage => cases stage <;> decide
  | reconciling stage => cases stage <;> decide
  | polling stage => cases stage <;> exact Nat.le_of_ble_eq_true rfl
  | review stage => cases stage <;> decide
  | failed stage => cases stage <;> decide

/-- `attempts` counts the committed dispatch markers, there is one for each stage of an operation
that has succeeded and never more, and the command of a stage is sent only when it is counted. -/
theorem attempts_of_execution (execution : portal.Execution history world)
    {operation : Operation} (stored : operation ∈ world.db.operations) :
    operation.attempts = (history.map (Event.marks operation.id)).sum ∧
    operation.attempts ≤ (Position.succeeded operation.operationType).stageIndex ∧
    (operation.status = .succeeded →
      operation.attempts = (Position.succeeded operation.operationType).stageIndex) ∧
    ∀ stage : Stage,
      (history.map (Event.sends operation.id operation.operationType stage)).sum ≤
        if stage.index < operation.attempts then 1 else 0 := by
  rcases recorded_of_execution execution operation stored with ⟨position, atPosition, recorded⟩
  refine ⟨?_, ?_, ?_, ?_⟩
  · rw [recorded.attempts, marks_of_execution execution operation stored position atPosition]
  · rw [recorded.attempts, atPosition.operationType]
    exact position.marked_le
  · intro succeeded
    have status := atPosition.status.symm.trans succeeded
    rw [recorded.attempts, atPosition.operationType]
    cases position <;> first | rfl | cases status
  · intro stage
    rw [recorded.attempts]
    exact (Nat.le_add_right _ _).trans
      (total_le_of_execution Tally.sends execution operation stored position atPosition stage)

/-! ## Error codes -/

/-- The error code of an operation says what the worker knows at its position. -/
theorem lastErrorCode_of_execution (execution : portal.Execution history world)
    {operation : Operation} (stored : operation ∈ world.db.operations) :
    (∃ position : Position, position.Matches operation ∧
      position.Explains operation.lastErrorCode) ∧
    (operation.status = .pending ∨ operation.status = .succeeded →
      operation.lastErrorCode = none) ∧
    (operation.status = .failed → ∃ text, operation.lastErrorCode = some text ∧ text ≠ "") := by
  rcases recorded_of_execution execution operation stored with ⟨position, atPosition, recorded⟩
  have status := atPosition.status
  have code := recorded.code
  refine ⟨⟨position, atPosition, code⟩, fun quiet => ?_, fun failed => ?_⟩
  · cases position with
    | pending stage => exact code
    | succeeded operationType => exact code
    | _ => simp [status, Position.status] at quiet
  · cases position with
    | failed stage => exact code
    | _ => simp [status, Position.status] at failed

end Runs

set_option maxRecDepth 10000 in
/-- Four markers were committed for the create of the sample run. -/
theorem sampleRunningVm_attempts :
    let history := (World.initial.perform sampleRunningVm).1
    (history.map (Event.marks 41)).sum = 4 ∧ ∀ stage : Stage,
      (history.map (Event.sends 41 .vmCreate stage)).sum ≤ if stage.index < 4 then 1 else 0 := by
  intro history
  have stored : (World.initial.perform sampleRunningVm).2.db.operations[0]? = some {
      id := 41, virtualMachineId := 31, operationType := .vmCreate, status := .succeeded,
      phase := some "complete", idempotencyKey := "create", attempts := 4, lastErrorCode := none,
      providerTaskId := none, updatedAt := 5 } := by decide +kernel
  have counted := attempts_of_execution ⟨.initial, rfl, World.initial.perform_run sampleRunningVm⟩
    (List.mem_of_getElem? stored)
  exact ⟨counted.1.symm, counted.2.2.2⟩

/-- The task of the sample stop has failed, and the call of a second stop raises. -/
def sampleFailedStop : List Action :=
  sampleStopTask ++
  [.select 9 [] 42 (pollingProvider (.ok { status := .failed })) 9 9,
    .enqueue ⟨0, 43, 10⟩ 1 31 .vmStop "stop again",
    .select 10 [] 43 (sampleProvider .running .running) 10 10,
    .submit 0 (fun _ _ => .error (.provider "timeout")), .store 0 11 11]

set_option maxRecDepth 10000 in
/-- The create has succeeded without a code, the first stop has failed with one, and the code
of the second stop says that its outcome is unknown. -/
theorem sampleFailedStop_lastErrorCode :
    let db := (World.initial.perform sampleFailedStop).2.db
    db.operations.map (fun operation => (operation.status, operation.lastErrorCode)) =
      [(.succeeded, none), (.failed, some "provider_task_failed"),
        (.processing, some "provider_submit_unknown")] ∧
    ∀ operation ∈ db.operations,
      (∃ position : Position, position.Matches operation ∧
        position.Explains operation.lastErrorCode) ∧
      (operation.status = .pending ∨ operation.status = .succeeded →
        operation.lastErrorCode = none) ∧
      (operation.status = .failed → ∃ text, operation.lastErrorCode = some text ∧ text ≠ "") := by
  intro db
  have execution : portal.Execution (World.initial.perform sampleFailedStop).1
      (World.initial.perform sampleFailedStop).2 :=
    ⟨.initial, rfl, World.initial.perform_run sampleFailedStop⟩
  exact ⟨by decide +kernel, fun _ stored => lastErrorCode_of_execution execution stored⟩

end NpdPortal
